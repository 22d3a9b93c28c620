import Runbook.Build.Failure
import Runbook.Build.Settings
import Runbook.CommandLine.Starter
import Runbook.Text.Line
/-!
# Reports of failures

A failure is told with all that is behind it, one cause after the other. Causes stand on lines of
their own and have numbers when there are several; further lines of a cause are put under its first.
-/

set_option autoImplicit false

namespace Runbook

open Block Build Machine Session Text

/-! ### Causes -/

/-- What is behind a fault, itself being the first. -/
def Block.FileFault.causes : FileFault → List String
  | .plain error => [error.message]
  | .walk (.io path error) => [WalkError.message (.io path error), error.message]
  | .walk (.loop child ancestor) => [WalkError.message (.loop child ancestor)]

/-- What is behind a failure. -/
def Block.Failure.causes : Failure → List String
  | .io _ fault => fault.causes
  | _ => []

/-- What is behind an error. -/
def Session.RunError.causes : RunError → List String
  | .block _ _ cause => cause.message :: cause.causes
  | .document cause => cause.causes

/-- What is behind a failed build. -/
def Build.BuildError.causes : BuildError → List String
  | .chapter _ cause => cause.message :: cause.causes
  | _ => []

namespace CommandLine

/-- Why a command fails. -/
inductive CommandError where
  | starter (cause : StarterError)
  | settings (cause : SettingsError)
  | build (cause : BuildError)
deriving DecidableEq, Repr

namespace CommandError

/-- The wording of an error. -/
def message : CommandError → String
  | starter cause => cause.message
  | settings cause => cause.message
  | build cause => cause.message

/-- What is behind an error. -/
def causes : CommandError → List String
  | starter cause => [cause.cause.message]
  | settings cause => [cause.cause]
  | build cause => cause.causes

end CommandError

/-! ### Wording -/

/-- The text of a cause: an opening, and all further lines under its first. -/
def causeText (opening text : String) : String :=
  let margin := List.replicate opening.length ' '
  opening ++ String.ofList (joinWith ('\n' :: margin) (splitAt '\n' text.toList))

/-- The opening of a cause with a number. -/
def numberedOpening (number : Nat) : String :=
  let digits := toString number
  String.ofList (List.replicate (5 - digits.length) ' ') ++ digits ++ ": "

/-- The text of causes. -/
def causesText : List String → String
  | [] => ""
  | [cause] => "\n\nCaused by:\n" ++ causeText "    " cause
  | causes =>
    "\n\nCaused by:" ++ String.join (causes.zipIdx.map fun (cause, number) =>
      "\n" ++ causeText (numberedOpening number) cause)

/-- What is told about a failed command. -/
def CommandError.report (error : CommandError) : String :=
  "Error: " ++ error.message ++ causesText error.causes ++ "\n"

end CommandLine

end Runbook
