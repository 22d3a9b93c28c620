/-!
# Options of utilities

A utility takes options before, after and between its operands. Options with one letter may be
written together after one hyphen, and options with a long name stand alone after two. The table
of a utility says which options it takes and which of them have values; `OptionTable.read` cuts
arguments by it and refuses options that are not in it.
-/

set_option autoImplicit false

namespace Runbook.Utility

/-- A path in the quotes of messages. -/
def quoted (path : String) : String := "'" ++ path ++ "'"

/-- Options and operands of a utility. -/
structure Given where
  /-- Options with their values, which are empty for those that have none. -/
  options : List (Char × String)
  others : List String
deriving DecidableEq, Repr

namespace Given

/-- Whether an option is given. -/
def has (given : Given) (option : Char) : Bool := given.options.any fun entry => entry.1 = option

/-- The value of the option that is given last. -/
def value? (given : Given) (option : Char) : Option String :=
  (given.options.reverse.find? fun entry => entry.1 = option).map Prod.snd

/-- The values of an option in order. -/
def values (given : Given) (option : Char) : List String :=
  (given.options.filter fun entry => entry.1 = option).map Prod.snd

end Given

/-- The options that a utility takes. -/
structure OptionTable where
  /-- The letters of options without a value. -/
  plain : String := ""
  /-- The letters of options with a value. -/
  valued : String := ""
  /-- The letters of options that may have a value right after them. -/
  attached : String := ""
  /-- The long names of options with the letters that mean the same. -/
  long : List (String × Char) := []
  /-- Whether what follows the first operand is an operand too. -/
  stopsEarly : Bool := false
  /-- The status of the utility when its options are wrong. -/
  failure : Nat := 1
deriving Repr

/-- What is wrong with the options of a utility. -/
inductive OptionFault where
  | unknown (letter : Char)
  | unknownLong (name : String)
  | ambiguous (name : String)
  | noValue (letter : Char)
  | noLongValue (name : String)
  | extraValue (name : String)
deriving DecidableEq, Repr

/-- The wording of what is wrong with options. -/
def OptionFault.message : OptionFault → String
  | unknown letter => "invalid option -- " ++ quoted letter.toString
  | unknownLong name => "unrecognized option " ++ quoted ("--" ++ name)
  | ambiguous name => "option " ++ quoted ("--" ++ name) ++ " is ambiguous"
  | noValue letter => "option requires an argument -- " ++ quoted letter.toString
  | noLongValue name => "option " ++ quoted ("--" ++ name) ++ " requires an argument"
  | extraValue name => "option " ++ quoted ("--" ++ name) ++ " doesn't allow an argument"

namespace OptionTable

variable (table : OptionTable)

/-- The options that some letters are; one with a value takes the other letters for it, or else
what follows. -/
def letters : List Char → List String → Except OptionFault (List (Char × String) × List String)
  | [], rest => .ok ([], rest)
  | c :: more, rest =>
    if c ∈ table.valued.toList then
      match more, rest with
      | [], [] => .error (.noValue c)
      | [], value :: rest => .ok ([(c, value)], rest)
      | more, rest => .ok ([(c, String.ofList more)], rest)
    else if c ∈ table.attached.toList then .ok ([(c, String.ofList more)], rest)
    else if c ∈ table.plain.toList then do
      let (options, rest) ← letters more rest
      return ((c, "") :: options, rest)
    else .error (.unknown c)

/-- The option that a long name is, which may be cut short as long as it is plain what it means. -/
def longOption (text : String) (rest : List String) :
    Except OptionFault ((Char × String) × List String) := do
  let name := String.ofList (text.toList.takeWhile (· != '='))
  let value? := if name = text then none
    else some (String.ofList (text.toList.drop (name.length + 1)))
  let (full, letter) ←
    match table.long.filter fun entry => name.toList.isPrefixOf entry.1.toList with
    | [] => .error (.unknownLong text)
    | [entry] => .ok entry
    | first :: others =>
      match (first :: others).find? fun entry => entry.1 = name with
      | some entry => .ok entry
      | none =>
        if others.all fun entry => entry.2 = first.2 then .ok first else .error (.ambiguous text)
  if letter ∈ table.valued.toList then
    match value?, rest with
    | some value, rest => return ((letter, value), rest)
    | none, value :: rest => return ((letter, value), rest)
    | none, [] => .error (.noLongValue full)
  else
    match value? with
    | none => return ((letter, ""), rest)
    | some value =>
      if letter ∈ table.attached.toList then return ((letter, value), rest)
      else .error (.extraValue full)

/-- Cuts arguments into options and operands, within a bound on their number. -/
def readFrom : Nat → List String → Except OptionFault Given
  | 0, arguments => .ok ⟨[], arguments⟩
  | _ + 1, [] => .ok ⟨[], []⟩
  | fuel + 1, argument :: rest => do
    match argument.toList with
    | ['-', '-'] => return ⟨[], rest⟩
    | '-' :: '-' :: name =>
      let (option, rest) ← table.longOption (String.ofList name) rest
      let given ← readFrom fuel rest
      return { given with options := option :: given.options }
    | '-' :: c :: more =>
      let (options, rest) ← table.letters (c :: more) rest
      let given ← readFrom fuel rest
      return { given with options := options ++ given.options }
    | _ =>
      if table.stopsEarly then return ⟨[], argument :: rest⟩
      else
        let given ← readFrom fuel rest
        return { given with others := argument :: given.others }

/-- Cuts arguments into options and operands. -/
def read (arguments : List String) : Except OptionFault Given :=
  table.readFrom arguments.length arguments

end OptionTable

end Runbook.Utility
