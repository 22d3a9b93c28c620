import Runbook.Block.Field
import Runbook.Document.CodeBlock
import Runbook.Patch.Parse
import Runbook.Screenshot.Script
/-!
# Refused blocks

Why a runnable block is refused before it runs. All causes are faults of its text, but for one:
offsets for a picture of the full page are a request that cannot be met.
-/

set_option autoImplicit false

namespace Runbook.Block

/-- Why a block is refused. -/
inductive Refusal where
  /-- The word after the namespace names no kind. -/
  | unknownKind (cause : Document.UnknownKind)
  /-- The argument text. -/
  | arguments (cause : Arguments.ArgumentError)
  /-- The value of a field. -/
  | field (cause : FieldError)
  /-- The patch in the body. -/
  | patch (cause : Patch.PatchError)
  /-- A patch that neither a field nor a header gives a file for. -/
  | patchTarget
  /-- The script in the body. -/
  | script (cause : Screenshot.ScriptError)
  /-- A command block without commands. -/
  | noCommands
  /-- A server to start without a command. -/
  | noServerCommand
  /-- A server to stop that is not named. -/
  | noServerName
  /-- A picture whose file name has no stem or another extension. -/
  | pictureName (name : String)
  /-- A picture without width. -/
  | noWidth
  /-- An offset and an extent whose sum is beyond the greatest length. -/
  | overflow (offsetField extentField : String) (offset extent : Nat)
  /-- Offsets for a picture of the full page. -/
  | fullPageOffsets (x y : Nat)
deriving DecidableEq, Repr

/-- Whether a refusal is for a request that cannot be met rather than for a fault of the text. -/
def Refusal.isUnmet : Refusal → Bool
  | fullPageOffsets _ _ => true
  | _ => false

/-- The wording of a refusal, without the kind of error. -/
def Refusal.reason : Refusal → String
  | unknownKind cause => cause.message
  | arguments cause => cause.message
  | field cause => cause.message
  | patch cause => cause.message
  | patchTarget => "file:patch needs `path=` or a `+++` header naming the file"
  | script cause => cause.message
  | noCommands => "command block has no commands"
  | noServerCommand => "server:start block has no command"
  | noServerName => "server:stop needs `name=` or the server command as its body"
  | pictureName name => "field `filename` must name a .png file, got `" ++ name ++ "`"
  | noWidth => "field `width` must be greater than 0"
  | overflow offsetField extentField offset extent =>
    "fields `" ++ offsetField ++ "` + `" ++ extentField ++ "` overflow the viewport, got " ++
      offsetField ++ "=" ++ toString offset ++ " " ++ extentField ++ "=" ++ toString extent
  | fullPageOffsets x y =>
    "fields `x` and `y` must be 0 for a full-page screenshot (height=0), got x=" ++ toString x ++
      " y=" ++ toString y

/-- The wording of a refusal. -/
def Refusal.message (refusal : Refusal) : String :=
  (if refusal.isUnmet then "precondition failed: " else "validation error: ") ++ refusal.reason

end Runbook.Block
