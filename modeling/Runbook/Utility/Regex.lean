import Runbook.Shell.Pattern
/-!
# Regular expressions

Expressions that the utilities search with, in the basic and in the extended spelling. Of all the
ways to fit, the first and then the longest counts.
-/

set_option autoImplicit false

namespace Runbook.Utility

/-- A regular expression. -/
inductive Regex where
  | nothing
  /-- A character with a property. -/
  | one (part : Shell.Pattern.Part)
  | start
  | finish
  /-- Between a character of a word and none; with `inside`, anywhere else. -/
  | wordEdge (inside : Bool)
  /-- Before the first character of a word. -/
  | wordStart
  /-- After the last character of a word. -/
  | wordEnd
  | both (first second : Regex)
  | either (first second : Regex)
  | group (number : Nat) (body : Regex)
  | many (body : Regex) (least : Nat) (greatest : Option Nat)
  /-- What a group has fitted. -/
  | back (number : Nat)

namespace Regex

/-- A way to fit a start of a text. -/
structure Fit where
  /-- The character before what is left; none at the start of a line. -/
  before : Option Char
  rest : List Char
  /-- How much has been fitted. -/
  length : Nat
  /-- What the groups have fitted. -/
  groups : List (Nat × List Char)

namespace Fit

/-- Nothing is fitted yet of a text. -/
def ofText (before : Option Char) (text : List Char) : Fit := ⟨before, text, 0, []⟩

/-- The fit that goes on over some characters. -/
def advance (fit : Fit) (count : Nat) : Fit :=
  { fit with
    before := ((fit.rest.take count).getLast?).orElse fun () => fit.before
    rest := fit.rest.drop count
    length := fit.length + count }

/-- Whether a character belongs to a word. -/
def isWordChar (c : Char) : Bool := c.isAlphanum || c = '_'

/-- Whether a character of a word comes before the place, and whether one comes after it. -/
def sides (fit : Fit) : Bool × Bool := (fit.before.any isWordChar, fit.rest.head?.any isWordChar)

end Fit

/-- Repeats a step some number of times, within a bound, as often as possible first. -/
def repeated (step : Fit → List Fit) : Nat → Nat → Option Nat → Fit → List Fit
  | 0, _, _, _ => []
  | fuel + 1, least, greatest, fit =>
    let more := if greatest = some 0 then []
      else ((step fit).filter fun next => fit.length < next.length || 0 < least).flatMap
        (repeated step fuel (least - 1) (greatest.map (· - 1)))
    if least = 0 then more ++ [fit] else more

/-- All ways to fit. -/
def fits (sameLetters : Bool) : Regex → Fit → List Fit
  | nothing, fit => [fit]
  | one part, fit =>
    match fit.rest with
    | c :: _ =>
      if part.accepts c || (sameLetters && (part.accepts c.toLower || part.accepts c.toUpper)) then
        [fit.advance 1]
      else []
    | [] => []
  | start, fit => if fit.before.isNone then [fit] else []
  | finish, fit => if fit.rest.isEmpty then [fit] else []
  | wordEdge inside, fit => if (fit.sides.1 = fit.sides.2) = inside then [fit] else []
  | wordStart, fit => if fit.sides = (false, true) then [fit] else []
  | wordEnd, fit => if fit.sides = (true, false) then [fit] else []
  | both first second, fit => (fits sameLetters first fit).flatMap (fits sameLetters second)
  | either first second, fit => fits sameLetters first fit ++ fits sameLetters second fit
  | group number body, fit =>
    (fits sameLetters body fit).map fun after =>
      { after with
        groups := (number, fit.rest.take (after.length - fit.length)) ::
          after.groups.filter fun entry => entry.1 != number }
  | many body least greatest, fit =>
    repeated (fits sameLetters body) (fit.rest.length + least + 2) least greatest fit
  | back number, fit =>
    let text := (fit.groups.lookup number).getD []
    if text.isPrefixOf fit.rest then [fit.advance text.length] else []

/-- The longest of some ways to fit, the first one of those that are as long. -/
def longest : List Fit → Option Fit
  | [] => none
  | fit :: rest =>
    match longest rest with
    | none => some fit
    | some other => if other.length ≤ fit.length then some fit else some other

/-- The first place of a text at which an expression fits in a way that counts: what stands before
it, and how it fits. `before` is the character before the text, and `passed` is what has been
passed, in reverse. -/
def searchFrom? (regex : Regex) (sameLetters : Bool) (counts : Fit → Bool) :
    Option Char → List Char → List Char → Option (List Char × Fit)
  | before, passed, text =>
    match longest ((fits sameLetters regex (.ofText before text)).filter counts) with
    | some fit => some (passed.reverse, fit)
    | none =>
      match text with
      | [] => none
      | c :: rest => searchFrom? regex sameLetters counts (some c) (c :: passed) rest

/-- The first place of a text at which an expression fits. -/
def search? (regex : Regex) (sameLetters : Bool) (before : Option Char) (text : List Char) :
    Option (List Char × Fit) :=
  searchFrom? regex sameLetters (fun _ => true) before [] text

/-- Whether an expression fits somewhere in a text. -/
def occursIn (regex : Regex) (sameLetters : Bool) (text : List Char) : Bool :=
  (search? regex sameLetters none text).isSome

/-! ### Reading -/

/-- The class of characters that a letter stands for after a backslash. -/
def letterClass? : Char → Option Shell.Pattern.Part
  | 'w' => some (.among false [.kind "alnum", .range '_' '_'])
  | 'W' => some (.among true [.kind "alnum", .range '_' '_'])
  | 's' => some (.among false [.kind "space"])
  | 'S' => some (.among true [.kind "space"])
  | _ => none

/-- The number at the start of a text, and what follows it. -/
def takeCount (text : List Char) : Option Nat × List Char :=
  let digits := text.takeWhile Char.isDigit
  ((String.ofList digits).toNat?, text.drop digits.length)

/-- Reads the bounds of a repetition after the opening brace. -/
def bounds? (extended : Bool) (text : List Char) : Option (Nat × Option Nat × List Char) :=
  let (least, rest) := takeCount text
  let (greatest, rest) := match rest with
    | ',' :: rest => takeCount rest
    | _ => (least, rest)
  match extended, rest with
  | true, '\x7d' :: rest => some (least.getD 0, greatest, rest)
  | false, '\\' :: '\x7d' :: rest => some (least.getD 0, greatest, rest)
  | _, _ => none

/-- What a reader knows: what is left, and how many groups have been opened. -/
structure Reading where
  rest : List Char
  groups : Nat

/-- The repetition that follows an expression, if there is one. -/
def repetition? (extended : Bool) (text : List Char) : Option (Nat × Option Nat × List Char) :=
  match extended, text with
  | _, '*' :: rest => some (0, none, rest)
  | true, '+' :: rest => some (1, none, rest)
  | true, '?' :: rest => some (0, some 1, rest)
  | true, '\x7b' :: rest => bounds? true rest
  | false, '\\' :: '+' :: rest => some (1, none, rest)
  | false, '\\' :: '?' :: rest => some (0, some 1, rest)
  | false, '\\' :: '\x7b' :: rest => bounds? false rest
  | _, _ => none

/-- The repetitions that follow an expression, within a bound. -/
def withRepetitions (extended : Bool) : Nat → Regex → List Char → Regex × List Char
  | 0, body, text => (body, text)
  | fuel + 1, body, text =>
    match repetition? extended text with
    | some (least, greatest, rest) =>
      withRepetitions extended fuel (.many body least greatest) rest
    | none => (body, text)

/-- Whether a text starts with the sign of a group or of another branch. -/
def opens (extended : Bool) (sign : Char) (text : List Char) : Option (List Char) :=
  match extended, text with
  | true, c :: rest => if c = sign then some rest else none
  | false, '\\' :: c :: rest => if c = sign then some rest else none
  | _, _ => none

mutual

/-- Reads branches up to a closing parenthesis or the end. -/
def readBranches (extended : Bool) : Nat → Reading → Option (Regex × Reading)
  | 0, _ => none
  | fuel + 1, reading => do
    let (first, reading) ← readBranch extended fuel true .nothing reading
    match opens extended '|' reading.rest with
    | some rest =>
      let (second, reading) ← readBranches extended fuel { reading with rest }
      return (.either first second, reading)
    | none => return (first, reading)
termination_by structural fuel => fuel

/-- Reads the further parts of a branch. -/
def readBranch (extended : Bool) : Nat → Bool → Regex → Reading → Option (Regex × Reading)
  | 0, _, _, _ => none
  | fuel + 1, first, done, reading => do
    if reading.rest.isEmpty || (opens extended '|' reading.rest).isSome ||
        (opens extended ')' reading.rest).isSome then
      return (done, reading)
    else
      let (part, reading) ← readPart extended fuel first reading
      let (whole, rest) := match part with
        | .start => (.start, reading.rest)
        | _ => withRepetitions extended reading.rest.length part reading.rest
      readBranch extended fuel false (.both done whole) { reading with rest }
termination_by structural fuel => fuel

/-- Reads a part of a branch, which may be its first one. -/
def readPart (extended : Bool) : Nat → Bool → Reading → Option (Regex × Reading)
  | 0, _, _ => none
  | fuel + 1, first, reading => do
    match opens extended '(' reading.rest with
    | some rest =>
      let number := reading.groups + 1
      let (body, reading) ← readBranches extended fuel ⟨rest, number⟩
      let rest ← opens extended ')' reading.rest
      return (.group number body, { reading with rest })
    | none =>
      match reading.rest with
      | '.' :: rest => return (.one .any, { reading with rest })
      | '^' :: rest =>
        return (if extended || first then .start else .one (.one '^'), { reading with rest })
      | '$' :: rest =>
        let atEnd := rest.isEmpty || (opens extended ')' rest).isSome ||
          (opens extended '|' rest).isSome
        return (if extended || atEnd then .finish else .one (.one '$'), { reading with rest })
      | '[' :: rest =>
        let (part, rest) ← Shell.Pattern.among? (rest.map fun c => (c, false))
        return (.one part, { reading with rest := rest.map Prod.fst })
      | '\\' :: c :: rest =>
        if c.isDigit && c != '0' then
          return (.back (c.toNat - '0'.toNat), { reading with rest })
        else if c = 'n' then return (.one (.one '\n'), { reading with rest })
        else if c = 't' then return (.one (.one '\t'), { reading with rest })
        else if c = 'b' then return (.wordEdge false, { reading with rest })
        else if c = 'B' then return (.wordEdge true, { reading with rest })
        else if c = '<' then return (.wordStart, { reading with rest })
        else if c = '>' then return (.wordEnd, { reading with rest })
        else return (.one ((letterClass? c).getD (.one c)), { reading with rest })
      | c :: rest => return (.one (.one c), { reading with rest })
      | [] => none
termination_by structural fuel => fuel

end

/-- Reads an expression. -/
def parse? (extended : Bool) (text : String) : Option Regex := do
  let (regex, reading) ← readBranches extended (8 * text.length + 16) ⟨text.toList, 0⟩
  if reading.rest.isEmpty then return regex else none

/-- The expression that a text fits by itself. -/
def ofText (text : String) : Regex :=
  text.toList.foldr (fun c rest => .both (.one (.one c)) rest) .nothing

end Regex

end Runbook.Utility
