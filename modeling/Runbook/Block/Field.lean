import Runbook.Arguments.Schema
import Runbook.Number.Duration
import Runbook.Path.Basic
/-!
# Checks on the fields of blocks

What the values of fields have to satisfy beyond their type: a span of time is longer than
nothing, a path stays inside the directory that it is taken in, and a file name is a single
component of a path.
-/

set_option autoImplicit false

namespace Runbook.Block

open Arguments Number

/-- Why the value of a field is refused. -/
inductive FieldError where
  /-- A number of seconds that is not above zero. -/
  | notPositive (field : String) (seconds : Binary64)
  /-- A number of seconds that no span of time has. -/
  | outOfRange (field : String) (seconds : Binary64)
  /-- A path that is empty, absolute or goes up. -/
  | notInside (field : String) (value : String)
  /-- A value that is not one name. -/
  | notFileName (field : String) (value : String)
deriving DecidableEq, Repr

/-- The wording of a refused value. -/
def FieldError.message : FieldError → String
  | notPositive field seconds =>
    "field `" ++ field ++ "` must be greater than 0, got " ++ Decimal.write seconds
  | outOfRange field seconds =>
    "field `" ++ field ++ "` is out of range, got " ++ Decimal.write seconds
  | notInside field value =>
    "field `" ++ field ++ "` must be a relative path inside the working directory, got `" ++
      value ++ "`"
  | notFileName field value =>
    "field `" ++ field ++ "` must be a plain file name, got `" ++ value ++ "`"

/-- The span of time that a field gives in seconds, none if it is left out. -/
def span? (arguments : Arguments) (field : String) : Except FieldError (Option Duration) :=
  match arguments.number? field with
  | none => .ok none
  | some seconds =>
    if seconds.isZero || seconds.isBelowZero then .error (.notPositive field seconds)
    else
      match Duration.ofSeconds? seconds with
      | some span => .ok (some span)
      | none => .error (.outOfRange field seconds)

/-- A path that is not empty and whose components are names, but for a full stop at its start. -/
def insidePath (field value : String) : Except FieldError String :=
  if !value.isEmpty && (Path.components value).all fun c => c.isNormal || c = .current then
    .ok value
  else .error (.notInside field value)

/-- A value whose only component is a name. -/
def plainName (field value : String) : Except FieldError String :=
  match Path.components value with
  | [.normal _] => .ok value
  | _ => .error (.notFileName field value)

end Runbook.Block
