import Runbook.Arguments.Token
import Runbook.Number.Decimal
/-!
# Argument schemas

Each kind of block declares the fields that its arguments may give. `parse` checks the tokens of
an argument text against such a schema: every key must be declared and given once, every required
field must be present, and every value, given or default, must convert to the type of its field.
A key without a value sets a flag.

`ArgumentError` lists the causes of refusal. Tokens are checked for unknown and repeated keys in
their own order before any field is converted; fields are then checked in the order of the schema.

`Arguments` holds the converted values; `text?`, `number?`, `flag` and `whole?` read them.
-/

set_option autoImplicit false

namespace Runbook

open Number

namespace Arguments

/-- The type of a field. -/
inductive Coercion where
  | text
  | number
  | flag
deriving DecidableEq, Repr

/-- Whether a field must be given, and what stands in for it if not. -/
inductive Presence where
  | required
  | optional (default : Option String)
deriving DecidableEq, Repr

/-- A field that the arguments of a block may give. -/
structure Field where
  name : String
  coercion : Coercion
  presence : Presence
deriving DecidableEq, Repr

namespace Field

/-- A field that must be given. -/
def required (name : String) (coercion : Coercion) : Field := ⟨name, coercion, .required⟩

/-- A field that may be left out. -/
def optional (name : String) (coercion : Coercion) : Field := ⟨name, coercion, .optional none⟩

/-- A field with a value to use when it is left out. -/
def withDefault (name : String) (coercion : Coercion) (default : String) : Field :=
  ⟨name, coercion, .optional (some default)⟩

end Field

/-- The fields of a kind of block, in order. -/
abbrev Schema := List Field

/-- The value of a field. -/
inductive Value where
  | text (value : String)
  | number (value : Binary64)
  | flag (value : Bool)
deriving DecidableEq, Repr

/-- What a refused value was expected to be. -/
inductive Expectation where
  | text
  | number
  | flag
  | keyAndValue
  | wholeNumber
deriving DecidableEq, Repr

/-- The wording of an expectation. -/
def Expectation.message : Expectation → String
  | .text => "a string"
  | .number => "a number"
  | .flag => "one of true/false/yes/no/on/off/1/0"
  | .keyAndValue => "key=value"
  | .wholeNumber => "a non-negative whole number"

/-- What a value of a given type is expected to be. -/
def Coercion.expectation : Coercion → Expectation
  | .text => .text
  | .number => .number
  | .flag => .flag

/-- Why an argument text is refused. -/
inductive ArgumentError where
  /-- A required field is not given. -/
  | missing (field : String)
  /-- The value of a field does not convert to its type. -/
  | invalid (field : String) (value : String) (expected : Expectation)
  /-- A key is not in the schema. -/
  | unknown (field : String) (allowed : List String)
  /-- A key is given twice. -/
  | duplicate (field : String)
  /-- The text is not a sequence of tokens. -/
  | malformed (cause : Malformed)
deriving DecidableEq, Repr

/-- The wording of a refusal. -/
def ArgumentError.message : ArgumentError → String
  | .missing field => "missing required field `" ++ field ++ "`"
  | .invalid field value expected =>
    "invalid value `" ++ value ++ "` for field `" ++ field ++ "`: expected " ++ expected.message
  | .unknown field allowed =>
    "unknown field `" ++ field ++ "` (expected one of: " ++ ", ".intercalate allowed ++ ")"
  | .duplicate field => "field `" ++ field ++ "` given more than once"
  | .malformed cause => "malformed arguments: " ++ cause.message

/-! ### Conversion -/

/-- The flag that a word stands for, whatever the case of its ASCII letters. -/
def flag? (word : String) : Option Bool :=
  let word := word.map Char.toLower
  if word ∈ ["true", "yes", "on", "1"] then some true
  else if word ∈ ["false", "no", "off", "0"] then some false
  else none

/-- The value of a given text at the type of a field. -/
def Field.coerce (field : Field) (text : String) : Except ArgumentError Value :=
  let refused := ArgumentError.invalid field.name text field.coercion.expectation
  match field.coercion with
  | .text => .ok (.text text)
  | .number =>
    match Decimal.read? text.toList with
    | some n => .ok (.number n)
    | none => .error refused
  | .flag =>
    match flag? text with
    | some b => .ok (.flag b)
    | none => .error refused

/-- Checks that every token names a field of the schema that no earlier token named. -/
def checkKeys (schema : Schema) : List String → List Token → Except ArgumentError Unit
  | _, [] => .ok ()
  | seen, token :: rest =>
    if schema.all fun field => field.name != token.key then
      .error (.unknown token.key (schema.map Field.name))
    else if token.key ∈ seen then .error (.duplicate token.key)
    else checkKeys schema (token.key :: seen) rest

/-- The value that a field takes from the tokens: `none` when it is left out and has no default. -/
def Field.value? (field : Field) (tokens : List Token) : Except ArgumentError (Option Value) :=
  match tokens.find? fun token => token.key == field.name with
  | some ⟨_, some text⟩ => (field.coerce text).map some
  | some ⟨_, none⟩ =>
    if field.coercion = .flag then .ok (some (.flag true))
    else .error (.invalid field.name "" .keyAndValue)
  | none =>
    match field.presence with
    | .required => .error (.missing field.name)
    | .optional (some default) => (field.coerce default).map some
    | .optional none => .ok none

end Arguments

/-- The converted arguments of a block: the fields that have a value, in the order of the
schema. -/
structure Arguments where
  values : List (String × Arguments.Value)
deriving DecidableEq, Repr

namespace Arguments

/-- The values of the fields of a schema, in order, up to the first refusal. -/
def collect (tokens : List Token) : Schema → Except ArgumentError (List (String × Value))
  | [] => .ok []
  | field :: rest => do
    let value ← field.value? tokens
    let values ← collect tokens rest
    return match value with
      | some value => (field.name, value) :: values
      | none => values

/-- The arguments that a list of tokens gives for a schema. -/
def ofTokens (schema : Schema) (tokens : List Token) : Except ArgumentError Arguments := do
  checkKeys schema [] tokens
  return ⟨← collect tokens schema⟩

/-- The arguments that a text gives for a schema. -/
def parse (schema : Schema) (text : String) : Except ArgumentError Arguments :=
  match tokenize text.toList with
  | .error cause => .error (.malformed cause)
  | .ok tokens => ofTokens schema tokens

/-- The value of a field, if it has one. -/
def get? (arguments : Arguments) (name : String) : Option Value :=
  arguments.values.lookup name

/-- The value of a text field. -/
def text? (arguments : Arguments) (name : String) : Option String :=
  match arguments.get? name with
  | some (.text value) => some value
  | _ => none

/-- The value of a numeric field. -/
def number? (arguments : Arguments) (name : String) : Option Binary64 :=
  match arguments.get? name with
  | some (.number value) => some value
  | _ => none

/-- Whether a flag is set. -/
def flag (arguments : Arguments) (name : String) : Bool :=
  match arguments.get? name with
  | some (.flag value) => value
  | _ => false

/-- The greatest value that a whole-number field may take. -/
def maxWhole : Nat := 0xffffffff

/-- The value of a numeric field that must be a whole number of at most 32 bits. -/
def whole? (arguments : Arguments) (name : String) : Except ArgumentError (Option Nat) :=
  match arguments.number? name with
  | none => .ok none
  | some n =>
    if n.isBelowZero || !n.isWhole || n.wholePart > maxWhole then
      .error (.invalid name (Decimal.write n) .wholeNumber)
    else .ok (some n.wholePart)

end Arguments

end Runbook
