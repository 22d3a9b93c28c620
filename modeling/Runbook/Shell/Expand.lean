import Runbook.Shell.Arithmetic
import Runbook.Shell.Children
import Runbook.Shell.Pattern
/-!
# Expanding words

A word becomes marks: characters that are quoted, plain, or the result of an expansion. Only the
last kind parts fields. A field with signs of a pattern is then replaced by the paths that the
pattern fits, if there are any.
-/

set_option autoImplicit false

namespace Runbook.Shell

open Sandbox

/-! ### Marks -/

/-- A part of an expanded word. -/
inductive Mark where
  | char (c : Char) (quoted : Bool)
  /-- A character that an expansion outside quotes has given. -/
  | loose (c : Char)
  /-- There is a field here, even if it holds nothing. -/
  | present
  /-- A field ends here. -/
  | boundary
deriving DecidableEq, Repr

/-- The character of a mark. -/
def Mark.char? : Mark → Option Char
  | .char c _ => some c
  | .loose c => some c
  | .present => none
  | .boundary => some ' '

/-- The text of marks. -/
def textOf (marks : List Mark) : String := String.ofList (marks.filterMap Mark.char?)

/-- Marks as a pattern. -/
def patternOf (marks : List Mark) : List Pattern.Mark :=
  marks.filterMap fun
    | .char c quoted => some (c, quoted)
    | .loose c => some (c, false)
    | _ => none

/-- The marks of a text. -/
def marksOf (quoted : Bool) (text : String) : List Mark :=
  text.toList.map fun c => if quoted then .char c true else .loose c

/-! ### Parameters -/

/-- The value of a parameter with one value. -/
def parameter? (state : State) (name : String) : Option String :=
  match name with
  | "#" => some (toString state.arguments.length)
  | "?" => some (toString state.status)
  | "$" => some (toString state.process)
  | "!" => state.lastBackground.map toString
  | "-" => some (String.ofList (optionLetters.reverse.filter state.has))
  | "0" => some state.name
  | _ =>
    match name.toNat? with
    | some index => state.arguments[index - 1]?
    | none => state.value? name

/-- Arguments with boundaries between them. -/
def parted (quoted : Bool) : List String → List Mark
  | [] => []
  | [last] => (if quoted then [.present] else []) ++ marksOf quoted last
  | first :: rest =>
    (if quoted then [.present] else []) ++ marksOf quoted first ++ .boundary :: parted quoted rest

/-- The marks of all arguments. -/
def argumentMarks (state : State) (name : String) (quoted : Bool) : List Mark :=
  if name = "*" && quoted then
    let separator := match state.value? "IFS" with
      | none => " "
      | some text => String.ofList (text.toList.take 1)
    .present :: marksOf true (separator.intercalate state.arguments)
  else parted quoted state.arguments

/-- The value of a parameter as one text. -/
def wholeParameter? (state : State) (name : String) : Option String :=
  if name = "@" || name = "*" then
    if state.arguments.isEmpty then none else some (" ".intercalate state.arguments)
  else parameter? state name

/-- Whether a value counts as none. -/
def isMissing (empty : Bool) : Option String → Bool
  | none => true
  | some text => empty && text = ""

/-- The value of an expression. -/
def evaluate (source : String) : Sh String := do
  let state ← get
  match Arithmetic.evaluate state.value? source with
  | .ok (value, assigned) =>
    for (name, value) in assigned.reverse do
      assign name (toString value)
    return toString value
  | .error fault => Sh.failWith (fault.message source)

/-! ### Expansion -/

mutual

/-- Expands a part of a word. -/
def expandPiece (interpreter : Interpreter) : Nat → Bool → Bool → Piece → Sh (List Mark)
  | 0, _, _, _ => return []
  | fuel + 1, quoted, loose, piece => do
    match piece with
    | .plain text =>
      return text.toList.map fun c => if loose then .loose c else .char c quoted
    | .quoted text =>
      return if text = "" then [.present] else text.toList.map fun c => .char c true
    | .double pieces => do
      let marks ← expandPieces interpreter fuel true false pieces
      let isArguments := match pieces with
        | [.parameter "@" .value] => true
        | _ => false
      return if isArguments then marks else .present :: marks
    | .parameter name form => expandParameter interpreter fuel quoted name form
    | .output command => return marksOf quoted (← outputOf interpreter command)
    | .arithmetic pieces => do
      let source := textOf (← expandPieces interpreter fuel true false pieces)
      return marksOf quoted (← evaluate source)
termination_by structural fuel => fuel

/-- Expands parts of a word. -/
def expandPieces (interpreter : Interpreter) : Nat → Bool → Bool → List Piece → Sh (List Mark)
  | 0, _, _, _ => return []
  | _ + 1, _, _, [] => return []
  | fuel + 1, quoted, loose, piece :: pieces => do
    let marks ← expandPiece interpreter fuel quoted loose piece
    let more ← expandPieces interpreter fuel quoted loose pieces
    return marks ++ more
termination_by structural fuel => fuel

/-- Expands a parameter. -/
def expandParameter (interpreter : Interpreter) : Nat → Bool → String → Form → Sh (List Mark)
  | 0, _, _, _ => return []
  | fuel + 1, quoted, name, form => do
    let state ← get
    let value := wholeParameter? state name
    let all := if name = "@" || name = "*" then argumentMarks state name quoted
      else marksOf quoted (value.getD "")
    match form with
    | .malformed => Sh.failWith "Bad substitution"
    | .value =>
      if value.isNone && state.has 'u' && name ≠ "@" && name ≠ "*" then
        Sh.failWith (name ++ ": parameter not set")
      else return all
    | .length =>
      if value.isNone && state.has 'u' then Sh.failWith (name ++ ": parameter not set")
      else return marksOf quoted (toString (value.getD "").length)
    | .orElse empty word =>
      if isMissing empty value then expandPieces interpreter fuel quoted (!quoted) word
      else return all
    | .ifSet empty word =>
      if isMissing empty value then return []
      else expandPieces interpreter fuel quoted (!quoted) word
    | .orAssign empty word =>
      if isMissing empty value then do
        let text := textOf (← expandPieces interpreter fuel quoted false word)
        assign name text
        return marksOf quoted text
      else return all
    | .orFail empty word =>
      if isMissing empty value then do
        let text := textOf (← expandPieces interpreter fuel quoted false word)
        Sh.failWith (name ++ ": " ++
          (if !word.isEmpty then text
            else "parameter not set" ++ (if empty then " or null" else "")))
      else return all
    | .withoutStart longest word => do
      let pattern := patternOf (← expandPieces interpreter fuel false false word)
      return marksOf quoted (String.ofList
        (Pattern.cutStart longest (Pattern.parts pattern) (value.getD "").toList))
    | .withoutEnd longest word => do
      let pattern := patternOf (← expandPieces interpreter fuel false false word)
      return marksOf quoted (String.ofList
        (Pattern.cutEnd longest (Pattern.parts pattern) (value.getD "").toList))
termination_by structural fuel => fuel

end

/-- A bound on the depth of words in words. -/
def maxDepth : Nat := 0x10000000000

/-- A word with a tilde at its start replaced by the home directory. -/
def withHome (state : State) : Word → Word
  | .plain text :: rest =>
    match text.toList with
    | '~' :: [] => if rest.isEmpty then home ++ rest else .plain text :: rest
    | '~' :: '/' :: more => home ++ .plain (String.ofList ('/' :: more)) :: rest
    | _ => .plain text :: rest
  | word => word
where
  home : Word := [.quoted ((state.value? "HOME").getD "~")]

/-- The marks of a word. -/
def expandWord (interpreter : Interpreter) (word : Word) : Sh (List Mark) := do
  expandPieces interpreter maxDepth false false (withHome (← get) word)

/-- The text of a word that is not cut into fields. -/
def expandText (interpreter : Interpreter) (word : Word) : Sh String := do
  return textOf (← expandWord interpreter word)

/-! ### Fields -/

/-- A field: its characters and whether they are quoted. -/
abbrev Field := List Pattern.Mark

/-- What has been cut into fields so far: the fields, the one that is open, and whether blanks have
just ended one. Fields and their characters are in reverse. -/
structure Cutting where
  done : List Field
  current : Option Field
  afterBlank : Bool

namespace Cutting

/-- Adds a character to the open field. -/
def add (cutting : Cutting) (mark : Pattern.Mark) : Cutting :=
  { cutting with current := some (mark :: cutting.current.getD []), afterBlank := false }

/-- Ends the open field, if there is one. -/
def close (cutting : Cutting) : Cutting :=
  match cutting.current with
  | none => cutting
  | some field => { cutting with done := field.reverse :: cutting.done, current := none }

/-- Goes on by a mark. -/
def step (separators : List Char) (cutting : Cutting) : Mark → Cutting
  | .char c quoted => cutting.add (c, quoted)
  | .present => { cutting with current := some (cutting.current.getD []), afterBlank := false }
  | .boundary => { cutting.close with afterBlank := false }
  | .loose c =>
    if c ∉ separators then cutting.add (c, false)
    else if isSpace c then
      if cutting.current.isSome then { cutting.close with afterBlank := true } else cutting
    else if cutting.current.isSome then { cutting.close with afterBlank := false }
    else if cutting.afterBlank then { cutting with afterBlank := false }
    else { cutting with done := [] :: cutting.done }

end Cutting

/-- The fields of marks. -/
def fieldsOf (separators : List Char) (marks : List Mark) : List Field :=
  (marks.foldl (Cutting.step separators) ⟨[], none, false⟩).close.done.reverse

/-! ### Paths -/

/-- A pattern cut at its slashes. -/
def splitPath : Field → List Field
  | [] => [[]]
  | (c, quoted) :: rest =>
    if c = '/' then [] :: splitPath rest
    else
      match splitPath rest with
      | [] => [[(c, quoted)]]
      | first :: more => ((c, quoted) :: first) :: more

/-- The characters of a field. -/
def fieldText (field : Field) : String := String.ofList (field.map Prod.fst)

/-- The names in a directory that a pattern fits. A name that starts with a full stop has to be
asked for. -/
def namesFitting (directory : String) (pattern : Field) : Sh (List String) := do
  match ← Sh.call (.list (if directory = "" then "." else directory)) with
  | .error _ => return []
  | .ok names =>
    let parts := Pattern.parts pattern
    let asked := pattern.head?.map Prod.fst = some '.'
    return names.filter fun name =>
      (asked || name.toList.head? != some '.') && Pattern.fits parts name.toList

/-- The paths that pieces of a pattern fit, below some paths. -/
def pathsFitting : List Field → List String → Sh (List String)
  | [], paths => return paths
  | piece :: pieces, paths => do
    let slash := if pieces.isEmpty then "" else "/"
    let mut further : List String := []
    for path in paths do
      if Pattern.isPattern piece then
        let names ← namesFitting path piece
        further := further ++ names.map fun name => path ++ name ++ slash
      else
        let next := path ++ fieldText piece ++ slash
        if pieces.isEmpty && next != "" then
          match ← Sh.call (.status next false) with
          | .ok _ => further := further ++ [next]
          | .error _ => pure ()
        else further := further ++ [next]
    pathsFitting pieces further

/-- The paths that a field fits, or its own text. -/
def expandPath (field : Field) : Sh (List String) := do
  if Pattern.isPattern field && !(← get).has 'f' then
    match ← pathsFitting (splitPath field) [""] with
    | [] => return [fieldText field]
    | paths => return paths
  else return [fieldText field]

/-- The fields of a word. -/
def expandFields (interpreter : Interpreter) (word : Word) : Sh (List String) := do
  let marks ← expandWord interpreter word
  let fields := fieldsOf (← get).separators marks
  return (← fields.mapM expandPath).flatten

/-- The fields of words. -/
def expandAll (interpreter : Interpreter) (words : List Word) : Sh (List String) := do
  return (← words.mapM (expandFields interpreter)).flatten

end Runbook.Shell
