import Runbook.Proofs.Document.Planning
import Runbook.Screenshot.Script
/-!
# The language of screenshot scripts

A line says a step when its first word is the verb of the step and what comes after that word is the
argument, which is not empty (`Step.IsSaidBy`). Lines that are blank say nothing. A body compiles
exactly when each of its other lines says a step and the first of them says a visit, and then the
steps are those of the lines in order. Otherwise the first line that is neither blank nor says a
step is blamed under its number (`IsFirstFault`); when there is no such line, all lines are blank or
the first step is a wait. `compile_accepts` says so for all bodies, together with the way back:
steps that are written one a line, with blanks around and blank lines between, compile to
themselves.

Each line that is not blank says a step or has a fault (`exists_isSaidBy_or_isFaulty`), and reading
it gives the one or the other (`Step.IsSaidBy.readStep_eq`, `IsFaulty.readStep_eq`). The lines after
one another follow by induction. Line endings are blanks, so it makes no difference to the steps
whether lines are cut with them or without (`readSteps_contentLines`).
-/

set_option autoImplicit false

namespace Runbook.Screenshot

open Arguments Document Text

/-! ### What lines say -/

/-- A line says a step: its first word is the verb, and what comes after it, without the blanks
around, is the argument, which is not empty. -/
def Step.IsSaidBy (step : Step) (line : List Char) : Prop :=
  OpensWith line step.verb.toList step.argument.toList ∧ step.argument ≠ ""

/-- The lines that are not blank, in order. -/
def spokenLines (lines : List (List Char)) : List (List Char) :=
  lines.filter fun line ↦ !line.all isBlank

/-- Why the line with a number says no step, although it is not blank: its first word is no verb, or
nothing comes after the verb. -/
inductive IsFaulty (number : Nat) (line : List Char) : ScriptError → Prop where
  | unknownStep {word : String} {rest : List Char} (hopens : OpensWith line word.toList rest)
      (hverb : ∀ step : Step, step.verb ≠ word) : IsFaulty number line (.unknownStep number word)
  | noArgument (step : Step) (hopens : OpensWith line step.verb.toList []) :
      IsFaulty number line (.noArgument number step.verb)

/-- The first line that is neither blank nor says a step has a fault. The lines are counted from a
number. -/
def IsFirstFault (number : Nat) (lines : List (List Char)) (error : ScriptError) : Prop :=
  ∃ before line after, lines = before ++ line :: after ∧
    (∀ earlier ∈ before, earlier.all isBlank = true ∨ ∃ step : Step, step.IsSaidBy earlier) ∧
    IsFaulty (number + before.length) line error

/-- Steps begin with a visit. -/
def StartsWithVisit (steps : List Step) : Prop := ∃ url later, steps = .visit url :: later

section Lines

variable {number : Nat} {line word rest : List Char} {step : Step} {error : ScriptError}

/-- The verb and the argument of a line are its first word and what comes after it. -/
theorem splitLine_eq (h : OpensWith line word rest) :
    splitLine (dropTrailing isBlank (dropBlanks line)) = (word, dropTrailing isBlank rest) := by
  obtain ⟨tail, htrim, htail, hrest⟩ := h.exists_trim_eq
  obtain ⟨hword, hafter⟩ := span_isBlank h.isBlank_eq_false htail
  rw [splitLine, htrim, hword, hafter, hrest]

theorem dropTrailing_of_opensWith (h : OpensWith line word rest) :
    dropTrailing isBlank rest = rest := by
  obtain ⟨before, tail, -, -, -, -, -, hsurrounds⟩ := h
  obtain ⟨-, -, -, -, -, -, hlast⟩ := hsurrounds
  exact dropTrailing_of_getLast? hlast

theorem Step.IsSaidBy.readStep_eq (h : step.IsSaidBy line) (number : Nat) :
    readStep number (dropTrailing isBlank (dropBlanks line)) = .ok step := by
  obtain ⟨hopens, hargument⟩ := h
  have hne : step.argument.toList.isEmpty = false := by
    simpa [List.isEmpty_eq_false_iff] using hargument
  rw [readStep, splitLine_eq hopens, dropTrailing_of_opensWith hopens]
  cases step with
  | visit url => simp_all [Step.verb, Step.argument]
  | wait selector => simp_all [Step.verb, Step.argument]

theorem IsFaulty.readStep_eq (h : IsFaulty number line error) :
    readStep number (dropTrailing isBlank (dropBlanks line)) = .error error := by
  cases h with
  | @unknownStep word rest hopens hverb =>
    have hne (step : Step) : word.toList ≠ step.verb.toList := fun heq ↦
      hverb step (String.toList_inj.1 heq).symm
    have hvisit : word.toList ≠ "visit".toList := hne (.visit "")
    have hwait : word.toList ≠ "wait".toList := hne (.wait "")
    rw [readStep, splitLine_eq hopens]
    simp only [hvisit, hwait, if_false, String.ofList_toList]
  | noArgument step hopens =>
    rw [readStep, splitLine_eq hopens]
    cases step <;> simp [Step.verb, dropTrailing]

/-- The wording of a fault starts with the number of its line. -/
theorem IsFaulty.exists_message (h : IsFaulty number line error) :
    ∃ what, error.message = "screenshot script line " ++ toString number ++ ": " ++ what := by
  -- The number is followed by more than a colon and a space in the wordings, in one literal.
  suffices hcut : ∃ what, error.message.toList =
      "screenshot script line ".toList ++ (toString number).toList ++ ": ".toList ++ what by
    obtain ⟨what, hwhat⟩ := hcut
    refine ⟨String.ofList what, String.toList_inj.1 ?_⟩
    simp only [hwhat, String.toList_append, String.toList_ofList]
  cases h with
  | @unknownStep word rest hopens hverb =>
    have hcolon : ": unknown step `".toList = ": ".toList ++ "unknown step `".toList := by decide
    refine ⟨"unknown step `".toList ++ word.toList ++
      "` (expected `visit` or `wait`)".toList, ?_⟩
    have hmessage : (ScriptError.unknownStep number word).message.toList =
        ("screenshot script line " ++ toString number ++ ": unknown step `" ++ word ++
          "` (expected `visit` or `wait`)").toList := rfl
    simp only [hmessage, String.toList_append, hcolon, List.append_assoc]
  | noArgument step hopens =>
    have hcolon : ": `".toList = ": ".toList ++ "`".toList := by decide
    refine ⟨"`".toList ++ step.verb.toList ++ "` needs an argument".toList, ?_⟩
    have hmessage : (ScriptError.noArgument number step.verb).message.toList =
        ("screenshot script line " ++ toString number ++ ": `" ++ step.verb ++
          "` needs an argument").toList := rfl
    simp only [hmessage, String.toList_append, hcolon, List.append_assoc]

theorem all_isBlank_eq_false (h : OpensWith line word rest) : line.all isBlank = false := by
  obtain ⟨before, tail, rfl, -, hne, hplain, -⟩ := h
  obtain ⟨c, later, rfl⟩ := List.exists_cons_of_ne_nil hne
  simp [hplain c List.mem_cons_self]

theorem exists_opensWith_of_all (h : line.all isBlank = false) :
    ∃ word rest, OpensWith line word rest := by
  have hstart : dropBlanks line ≠ [] := by
    simpa [dropBlanks, List.dropWhile_eq_nil_iff] using h
  have hword : firstWord line ≠ [] := by
    obtain ⟨c, later, hcons⟩ := List.exists_cons_of_ne_nil hstart
    have hc := List.head?_dropWhile_not isBlank line
    rw [← dropBlanks, hcons, List.head?_cons] at hc
    rw [firstWord, hcons, List.takeWhile_cons_of_pos (by simpa using hc)]
    exact List.cons_ne_nil c _
  obtain ⟨rest, hopens⟩ := exists_opensWith hword
  exact ⟨_, rest, hopens⟩

/-- Nothing is left of a line without the blanks around it when it is blank. -/
theorem isEmpty_trim (line : List Char) :
    (dropTrailing isBlank (dropBlanks line)).isEmpty = line.all isBlank := by
  cases hblank : line.all isBlank with
  | true =>
    have hnone : dropBlanks line = [] := by
      simpa [dropBlanks, List.dropWhile_eq_nil_iff] using hblank
    rw [hnone]
    rfl
  | false =>
    obtain ⟨word, rest, hopens⟩ := exists_opensWith_of_all hblank
    obtain ⟨tail, htrim, -⟩ := hopens.exists_trim_eq
    simp [htrim, hopens.ne_nil]

/-- A line that is not blank says a step or has a fault. -/
theorem exists_isSaidBy_or_isFaulty (h : line.all isBlank = false) (number : Nat) :
    (∃ step : Step, step.IsSaidBy line) ∨ ∃ error, IsFaulty number line error := by
  obtain ⟨word, rest, hopens⟩ := exists_opensWith_of_all h
  rw [← String.toList_ofList (l := word), ← String.toList_ofList (l := rest)] at hopens
  by_cases hverb : ∃ make : String → Step, ∀ argument,
      (make argument).verb = String.ofList word ∧ (make argument).argument = argument
  · obtain ⟨make, hmake⟩ := hverb
    obtain ⟨hword, hargument⟩ := hmake (String.ofList rest)
    by_cases hrest : String.ofList rest = ""
    · right
      rw [← hword, hrest] at hopens
      exact ⟨_, .noArgument _ hopens⟩
    · left
      rw [← hword] at hopens
      exact ⟨make (String.ofList rest), by rwa [hargument], by rwa [hargument]⟩
  · right
    refine ⟨_, .unknownStep hopens fun step hstep ↦ hverb ?_⟩
    cases step with
    | visit url => exact ⟨.visit, fun argument ↦ ⟨hstep, rfl⟩⟩
    | wait selector => exact ⟨.wait, fun argument ↦ ⟨hstep, rfl⟩⟩

end Lines

/-! ### Lines one after the other -/

section Scripts

variable {number : Nat} {line : List Char} {lines : List (List Char)} {step : Step}
  {steps : List Step} {error : ScriptError}

theorem readSteps_blank (h : line.all isBlank = true) (number : Nat) (lines : List (List Char)) :
    readSteps number (line :: lines) = readSteps (number + 1) lines := by
  rw [readSteps, isEmpty_trim, if_pos h]

theorem readSteps_spoken (h : line.all isBlank = false) (number : Nat)
    (lines : List (List Char)) : readSteps number (line :: lines) =
      (readStep number (dropTrailing isBlank (dropBlanks line)) >>= fun step ↦
        readSteps (number + 1) lines >>= fun steps ↦ pure (step :: steps)) := by
  rw [readSteps, isEmpty_trim, if_neg (by rw [h]; exact Bool.false_ne_true)]

theorem spokenLines_blank (h : line.all isBlank = true) (lines : List (List Char)) :
    spokenLines (line :: lines) = spokenLines lines := by
  simp only [spokenLines, List.filter_cons, h, Bool.not_true, Bool.false_eq_true, if_false]

theorem spokenLines_spoken (h : line.all isBlank = false) (lines : List (List Char)) :
    spokenLines (line :: lines) = line :: spokenLines lines := by
  simp only [spokenLines, List.filter_cons, h, Bool.not_false, if_true]

/-- Lines that say steps are read as these steps. -/
theorem readSteps_of_isSaidBy (h : List.Forall₂ Step.IsSaidBy steps (spokenLines lines))
    (number : Nat) : readSteps number lines = .ok steps := by
  induction lines generalizing number steps with
  | nil =>
    cases h
    rfl
  | cons line lines ih =>
    cases hblank : line.all isBlank with
    | true =>
      rw [spokenLines_blank hblank] at h
      rw [readSteps_blank hblank]
      exact ih h (number + 1)
    | false =>
      rw [spokenLines_spoken hblank] at h
      cases h with
      | cons hsaid hlater =>
        rw [readSteps_spoken hblank, hsaid.readStep_eq, ih hlater]
        rfl

/-- The first line with a fault ends the reading. -/
theorem readSteps_of_isFirstFault (h : IsFirstFault number lines error) :
    readSteps number lines = .error error := by
  obtain ⟨before, line, after, rfl, hbefore, hfault⟩ := h
  induction before generalizing number with
  | nil =>
    have hspoken : line.all isBlank = false := by
      cases hfault with
      | unknownStep hopens hverb => exact all_isBlank_eq_false hopens
      | noArgument step hopens => exact all_isBlank_eq_false hopens
    rw [List.nil_append, readSteps_spoken hspoken]
    have hread := hfault.readStep_eq
    rw [List.length_nil, Nat.add_zero] at hread
    rw [hread]
    rfl
  | cons first before ih =>
    rw [List.length_cons, Nat.add_comm before.length, ← Nat.add_assoc] at hfault
    obtain ⟨hfirst, hbefore⟩ := List.forall_mem_cons.1 hbefore
    have hrest := ih hbefore hfault
    rw [List.cons_append]
    rcases hfirst with hblank | ⟨step, hsaid⟩
    · rw [readSteps_blank hblank, hrest]
    · rw [readSteps_spoken (all_isBlank_eq_false hsaid.1), hsaid.readStep_eq, hrest]
      rfl

theorem IsFirstFault.cons (h : IsFirstFault (number + 1) lines error)
    (hfirst : line.all isBlank = true ∨ ∃ step : Step, step.IsSaidBy line) :
    IsFirstFault number (line :: lines) error := by
  obtain ⟨before, faulty, after, rfl, hbefore, hfault⟩ := h
  refine ⟨line :: before, faulty, after, rfl, List.forall_mem_cons.2 ⟨hfirst, hbefore⟩, ?_⟩
  rwa [List.length_cons, Nat.add_comm before.length, ← Nat.add_assoc]

/-- The lines that are not blank all say steps, or one of them is the first with a fault. -/
theorem areSaid_or_isFirstFault (number : Nat) (lines : List (List Char)) :
    (∃ steps, List.Forall₂ Step.IsSaidBy steps (spokenLines lines)) ∨
      ∃ error, IsFirstFault number lines error := by
  induction lines generalizing number with
  | nil => exact .inl ⟨[], .nil⟩
  | cons line lines ih =>
    cases hblank : line.all isBlank with
    | true =>
      rw [spokenLines_blank hblank]
      exact (ih (number + 1)).imp_right fun ⟨error, hfault⟩ ↦ ⟨error, hfault.cons (.inl hblank)⟩
    | false =>
      rw [spokenLines_spoken hblank]
      rcases exists_isSaidBy_or_isFaulty hblank number with ⟨step, hsaid⟩ | ⟨error, hfaulty⟩
      · rcases ih (number + 1) with ⟨steps, hsteps⟩ | ⟨error, hfault⟩
        · exact .inl ⟨step :: steps, .cons hsaid hsteps⟩
        · exact .inr ⟨error, hfault.cons (.inr ⟨step, hsaid⟩)⟩
      · exact .inr ⟨error, [], line, lines, rfl, List.forall_mem_nil _, hfaulty⟩

theorem readSteps_eq_ok_iff (number : Nat) : readSteps number lines = .ok steps ↔
    List.Forall₂ Step.IsSaidBy steps (spokenLines lines) := by
  refine ⟨fun h ↦ ?_, fun h ↦ readSteps_of_isSaidBy h number⟩
  rcases areSaid_or_isFirstFault number lines with ⟨others, hsaid⟩ | ⟨error, hfault⟩
  · rw [readSteps_of_isSaidBy hsaid] at h
    exact Except.ok.inj h ▸ hsaid
  · rw [readSteps_of_isFirstFault hfault] at h
    cases h

theorem readSteps_eq_error_iff : readSteps number lines = .error error ↔
    IsFirstFault number lines error := by
  refine ⟨fun h ↦ ?_, readSteps_of_isFirstFault⟩
  rcases areSaid_or_isFirstFault number lines with ⟨steps, hsaid⟩ | ⟨other, hfault⟩
  · rw [readSteps_of_isSaidBy hsaid] at h
    cases h
  · rw [readSteps_of_isFirstFault hfault] at h
    exact Except.error.inj h ▸ hfault

/-- What is left of a line without the blanks around it does not depend on its ending. -/
theorem trim_withoutEnding (line : List Char) :
    dropTrailing isBlank (dropBlanks (withoutEnding (line ++ ['\n']))) =
      dropTrailing isBlank (dropBlanks line) := by
  rw [withoutEnding, if_pos List.getLast?_concat, List.dropLast_concat]
  dsimp only
  split
  · next hreturn =>
    obtain ⟨before, rfl⟩ := List.getLast?_eq_some_iff.1 hreturn
    obtain ⟨inner, hinner⟩ := exists_surrounds before
    have hblank : isBlank '\r' = true := by decide
    rw [List.dropLast_concat, hinner.trim_eq, (hinner.concat hblank).trim_eq]
  · rfl

/-- The endings of lines are blank, and so is the piece after the last of them: they make no
difference. -/
theorem readSteps_contentLines (number : Nat) (text : List Char) :
    readSteps number (contentLines text) = readSteps number (splitAt '\n' text) := by
  unfold contentLines
  induction text using lines_induction generalizing number with
  | nil => rfl
  | last line hmem hne =>
    rw [terminated_of_not_mem hmem hne, splitAt_of_not_mem hmem, List.map_singleton, withoutEnding,
      if_neg fun hlast ↦ hmem (List.mem_of_getLast? hlast)]
  | line line rest hmem ih =>
    rw [terminated_append hmem, splitAt_append hmem, List.map_cons, readSteps, readSteps,
      trim_withoutEnding, ih]

theorem compile_eq_ok_iff {body : String} : compile body = .ok steps ↔
    List.Forall₂ Step.IsSaidBy steps (spokenLines (contentLines body.toList)) ∧
      StartsWithVisit steps := by
  rw [← readSteps_eq_ok_iff 1, compile]
  constructor
  · intro h
    split at h
    · cases h
    · cases h
    · cases h
    · next hempty hwait hread =>
      cases h
      refine ⟨hread, ?_⟩
      cases steps with
      | nil => exact absurd rfl hempty
      | cons step later =>
        cases step with
        | visit url => exact ⟨url, later, rfl⟩
        | wait selector => exact absurd rfl (hwait selector later)
  · rintro ⟨hread, url, later, rfl⟩
    rw [hread]

/-- Why a body does not compile: a line with a fault, and without one only blank lines or a wait
before all else. -/
theorem compile_eq_error_iff {body : String} : compile body = .error error ↔
    IsFirstFault 1 (contentLines body.toList) error ∨
      (spokenLines (contentLines body.toList) = [] ∧ error = .empty) ∨
      ∃ selector later, List.Forall₂ Step.IsSaidBy (.wait selector :: later)
        (spokenLines (contentLines body.toList)) ∧ error = .noVisit := by
  have hempty : spokenLines (contentLines body.toList) = [] ↔
      readSteps 1 (contentLines body.toList) = .ok [] := by
    rw [readSteps_eq_ok_iff, List.forall₂_nil_left_iff]
  rw [← readSteps_eq_error_iff, hempty, compile]
  simp only [← readSteps_eq_ok_iff 1]
  constructor
  · intro h
    split at h
    · next cause hread => exact .inl (Except.error.inj h ▸ hread)
    · next hread => exact .inr (.inl ⟨hread, (Except.error.inj h).symm⟩)
    · next selector later hread =>
      exact .inr (.inr ⟨selector, later, hread, (Except.error.inj h).symm⟩)
    · cases h
  · rintro (hread | ⟨hread, rfl⟩ | ⟨selector, later, hread, rfl⟩) <;> rw [hread]

end Scripts

/-! ### Scripts that are written -/

/-- The argument of a step can be written: it is not empty and has no blanks around. -/
def Step.IsPlain (step : Step) : Prop := step.argument ≠ "" ∧ trim step.argument = step.argument

/-- A step is written on a line: the verb, blanks and the argument, with blanks around. -/
def Step.IsWrittenOn (step : Step) (line : List Char) : Prop :=
  ∃ before gap after,
    line = before ++ (step.verb.toList ++ (gap ++ (step.argument.toList ++ after))) ∧ gap ≠ [] ∧
    (∀ c ∈ before, isBlank c = true) ∧ (∀ c ∈ gap, isBlank c = true) ∧
    ∀ c ∈ after, isBlank c = true

/-- Steps are written on lines, one a line, with blank lines anywhere. -/
inductive AreWrittenOn : List Step → List (List Char) → Prop where
  | nil : AreWrittenOn [] []
  | blank {steps : List Step} {line : List Char} {lines : List (List Char)}
      (hblank : ∀ c ∈ line, isBlank c = true) (hlater : AreWrittenOn steps lines) :
      AreWrittenOn steps (line :: lines)
  | step {step : Step} {steps : List Step} {line : List Char} {lines : List (List Char)}
      (hwritten : step.IsWrittenOn line) (hlater : AreWrittenOn steps lines) :
      AreWrittenOn (step :: steps) (line :: lines)

section Writing

variable {step : Step} {steps : List Step} {line : List Char} {lines : List (List Char)}

theorem Step.verb_ne_nil (step : Step) : step.verb.toList ≠ [] := by
  cases step <;> simp [Step.verb]

theorem Step.isBlank_verb (step : Step) : ∀ c ∈ step.verb.toList, isBlank c = false := by
  cases step with
  | visit url =>
    exact isBlank_of_all (show "visit".toList.all (fun c ↦ !isBlank c) = true by decide)
  | wait selector =>
    exact isBlank_of_all (show "wait".toList.all (fun c ↦ !isBlank c) = true by decide)

/-- A step that is written on a line is said by it. -/
theorem Step.IsWrittenOn.isSaidBy (h : step.IsWrittenOn line) (hplain : step.IsPlain) :
    step.IsSaidBy line := by
  obtain ⟨before, gap, after, rfl, hgap, hbefore, hblank, hafter⟩ := h
  obtain ⟨hne, htrim⟩ := hplain
  obtain ⟨inner, hinner⟩ := exists_surrounds step.argument.toList
  have hargument : inner = step.argument.toList := by
    rw [← hinner.trim_eq, ← String.toList_ofList (l := dropTrailing isBlank _)]
    exact congrArg String.toList htrim
  obtain ⟨-, -, -, -, -, hfirst, hlast⟩ := hargument ▸ hinner
  have hends : EndsWord (gap ++ (step.argument.toList ++ after)) := by
    obtain ⟨c, blanks, rfl⟩ := List.exists_cons_of_ne_nil hgap
    exact EndsWord.cons (hblank c List.mem_cons_self) _
  exact ⟨⟨before, _, rfl, hbefore, step.verb_ne_nil, step.isBlank_verb, hends, gap, after, rfl,
    hblank, hafter, hfirst, hlast⟩, hne⟩

theorem AreWrittenOn.isSaidBy (h : AreWrittenOn steps lines)
    (hplain : ∀ step ∈ steps, step.IsPlain) :
    List.Forall₂ Step.IsSaidBy steps (spokenLines lines) := by
  induction h with
  | nil => exact .nil
  | blank hblank hlater ih =>
    rw [spokenLines_blank (List.all_eq_true.2 hblank)]
    exact ih hplain
  | step hwritten hlater ih =>
    obtain ⟨hfirst, hrest⟩ := List.forall_mem_cons.1 hplain
    have hsaid := hwritten.isSaidBy hfirst
    rw [spokenLines_spoken (all_isBlank_eq_false hsaid.1)]
    exact .cons hsaid (ih hrest)

/-- Steps that are written line by line compile to themselves. -/
theorem compile_of_areWrittenOn (h : AreWrittenOn steps lines) (hvisit : StartsWithVisit steps)
    (hplain : ∀ step ∈ steps, step.IsPlain) (hlines : ∀ line ∈ lines, '\n' ∉ line) :
    compile (String.ofList (joinWith ['\n'] lines)) = .ok steps := by
  have hsome : lines ≠ [] := by
    rintro rfl
    cases h
    obtain ⟨url, later, hsteps⟩ := hvisit
    cases hsteps
  obtain ⟨first, rest, rfl⟩ := List.exists_cons_of_ne_nil hsome
  rw [compile_eq_ok_iff, ← readSteps_eq_ok_iff 1, String.toList_ofList, readSteps_contentLines,
    splitAt_joinWith hlines]
  exact ⟨readSteps_of_isSaidBy (h.isSaidBy hplain) 1, hvisit⟩

end Writing

/-- A body compiles exactly when some line is not blank, each such line says a step and the first of
them says a visit; the steps are then what these lines say, in order. Steps that start with a visit
and are written one a line, with blanks around and blank lines anywhere, compile to themselves. A
body that does not compile has a first line that says no step, with its number in the error, or only
blank lines, or a wait before all other steps. -/
theorem compile_accepts :
    (∀ body steps, compile body = .ok steps ↔
      List.Forall₂ Step.IsSaidBy steps (spokenLines (contentLines body.toList)) ∧
        StartsWithVisit steps) ∧
    (∀ steps lines, AreWrittenOn steps lines → StartsWithVisit steps →
      (∀ step ∈ steps, step.IsPlain) → (∀ line ∈ lines, '\n' ∉ line) →
      compile (String.ofList (joinWith ['\n'] lines)) = .ok steps) ∧
    (∀ body error, compile body = .error error ↔
      IsFirstFault 1 (contentLines body.toList) error ∨
      (spokenLines (contentLines body.toList) = [] ∧ error = .empty) ∨
      ∃ selector later, List.Forall₂ Step.IsSaidBy (.wait selector :: later)
        (spokenLines (contentLines body.toList)) ∧ error = .noVisit) ∧
    ∀ number line error, IsFaulty number line error →
      ∃ what, error.message = "screenshot script line " ++ toString number ++ ": " ++ what := by
  exact ⟨fun _ _ ↦ compile_eq_ok_iff, fun _ _ ↦ compile_of_areWrittenOn,
    fun _ _ ↦ compile_eq_error_iff, fun _ _ _ ↦ IsFaulty.exists_message⟩

/-- Two steps among blank lines compile to themselves, where an argument has a space in it and the
blanks are an ideographic space, a no-break space and the end of a line with a carriage return. A
verb alone on the third line is blamed there. -/
theorem compile_accepts_spaced :
    compile (String.ofList (joinWith ['\n'] [[' '], "\u3000visit \thttp://x/a b \r".toList, [],
      "wait\u00a0.list > li".toList, []])) = .ok [.visit "http://x/a b", .wait ".list > li"] ∧
    IsFirstFault 1 (contentLines "visit http://x\r\n\u2003\n  wait\t\nclick #y".toList)
      (.noArgument 3 "wait") := by
  obtain ⟨-, hwritten, herror, -⟩ := compile_accepts
  constructor
  · have hblank {text : List Char} (h : text.all isBlank = true) : ∀ c ∈ text, isBlank c = true :=
      List.all_eq_true.1 h
    have hlines : ∀ line ∈ [[' '], "\u3000visit \thttp://x/a b \r".toList, [],
        "wait\u00a0.list > li".toList, []], '\n' ∉ line := by decide +kernel
    refine hwritten _ _ (.blank (hblank rfl) (.step ?_ (.blank (hblank rfl)
      (.step ?_ (.blank (hblank rfl) .nil))))) ⟨_, _, rfl⟩ ?_ hlines
    · exact ⟨['\u3000'], [' ', '\t'], [' ', '\r'], rfl, nofun, hblank rfl, hblank rfl, hblank rfl⟩
    · exact ⟨[], ['\u00a0'], [], rfl, nofun, hblank rfl, hblank rfl, hblank rfl⟩
    · exact List.forall_mem_cons.2 ⟨⟨by decide, rfl⟩, List.forall_mem_singleton.2 ⟨by decide, rfl⟩⟩
  · have hrefused : compile "visit http://x\r\n\u2003\n  wait\t\nclick #y" =
        .error (.noArgument 3 "wait") := by decide +kernel
    rcases (herror _ _).1 hrefused with hfault | ⟨-, hempty⟩ | ⟨_, _, -, hvisit⟩
    · exact hfault
    · cases hempty
    · cases hvisit

end Runbook.Screenshot
