import Runbook.Text.Blank
import Runbook.Text.Line
/-!
# Screenshot scripts

A script says what a browser does before the picture is taken: one step a line, where blank lines
and blanks around a line count for nothing. A step is a verb and its argument. The whole script is
checked before anything runs, and it has to start with a visit.
-/

set_option autoImplicit false

namespace Runbook.Screenshot

open Text

/-- A step of a browser. -/
inductive Step where
  /-- Opens a page and waits for the network to go idle. -/
  | visit (url : String)
  /-- Waits for an element that a selector matches. -/
  | wait (selector : String)
deriving DecidableEq, Repr

/-- The verb of a step. -/
def Step.verb : Step → String
  | visit _ => "visit"
  | wait _ => "wait"

/-- The argument of a step. -/
def Step.argument : Step → String
  | visit url => url
  | wait selector => selector

/-- Why a text is not a script. Lines are counted from one, blank ones included. -/
inductive ScriptError where
  /-- The verb of a line is none. -/
  | unknownStep (line : Nat) (verb : String)
  /-- A verb has no argument. -/
  | noArgument (line : Nat) (verb : String)
  /-- Every line is blank. -/
  | empty
  /-- The first step is not a visit. -/
  | noVisit
deriving DecidableEq, Repr

/-- The wording of an error. -/
def ScriptError.message : ScriptError → String
  | unknownStep line verb =>
    "screenshot script line " ++ toString line ++ ": unknown step `" ++ verb ++
      "` (expected `visit` or `wait`)"
  | noArgument line verb =>
    "screenshot script line " ++ toString line ++ ": `" ++ verb ++ "` needs an argument"
  | empty => "screenshot script has no steps"
  | noVisit => "screenshot script must start with `visit`"

/-- The verb of a line without blanks around it, and the rest of the line without blanks around. -/
def splitLine (line : List Char) : List Char × List Char :=
  (line.takeWhile fun c => !isBlank c,
    dropTrailing isBlank (dropBlanks (line.dropWhile fun c => !isBlank c)))

/-- The step that a line is, which is not blank and has no blanks around it. -/
def readStep (number : Nat) (line : List Char) : Except ScriptError Step :=
  let (verb, argument) := splitLine line
  let argumentOr (make : String → Step) : Except ScriptError Step :=
    if argument.isEmpty then .error (.noArgument number (String.ofList verb))
    else .ok (make (String.ofList argument))
  if verb = "visit".toList then argumentOr .visit
  else if verb = "wait".toList then argumentOr .wait
  else .error (.unknownStep number (String.ofList verb))

/-- The steps of lines, the first of which has a number. -/
def readSteps : Nat → List (List Char) → Except ScriptError (List Step)
  | _, [] => .ok []
  | number, line :: lines =>
    let line := dropTrailing isBlank (dropBlanks line)
    if line.isEmpty then readSteps (number + 1) lines
    else do
      let step ← readStep number line
      let steps ← readSteps (number + 1) lines
      return step :: steps

/-- The steps of a script. -/
def compile (body : String) : Except ScriptError (List Step) :=
  match readSteps 1 (contentLines body.toList) with
  | .error e => .error e
  | .ok [] => .error .empty
  | .ok (.wait _ :: _) => .error .noVisit
  | .ok steps => .ok steps

end Runbook.Screenshot
