import Runbook.Utility.Basic
/-!
# Finding files

`find` goes through all that is below some paths and tells of what meets every condition.
-/

set_option autoImplicit false

namespace Runbook.Utility

open Machine Sandbox

/-! ### Conditions -/

/-- What a search asks about what it finds. -/
inductive Condition where
  | name (pattern : String) (sameLetters : Bool)
  | path (pattern : String)
  | kind (kind : EntryKind)
  /-- A file or directory holds nothing. -/
  | empty
  | no (condition : Condition)
deriving DecidableEq, Repr

/-- A search. -/
structure Query where
  conditions : List Condition
  leastDepth : Nat
  greatestDepth : Nat
  /-- Whether what is found is removed and not told of. -/
  delete : Bool
deriving Repr

namespace Query

/-- A search for everything. -/
def all : Query := ⟨[], 0, maxDepth, false⟩

/-- The kind of entry that a letter stands for. -/
def kindOf? : String → Option EntryKind
  | "f" => some .file
  | "d" => some .directory
  | "l" => some .link
  | _ => none

/-- A search that asks for one thing more. -/
def add (query : Query) (negated : Bool) (condition : Condition) : Query :=
  { query with
    conditions := query.conditions ++ [if negated then .no condition else condition] }

/-- Adds what words ask, or tells what is wrong; `negated` is whether the next condition has to
fail. -/
def read (query : Query) (negated : Bool) : List String → Except String Query
  | [] => .ok query
  | "!" :: rest => query.read (!negated) rest
  | "-not" :: rest => query.read (!negated) rest
  | "-empty" :: rest => (query.add negated .empty).read false rest
  | "-print" :: rest => query.read negated rest
  | "-delete" :: rest => { query with delete := true }.read negated rest
  | "-name" :: pattern :: rest => (query.add negated (.name pattern false)).read false rest
  | "-iname" :: pattern :: rest => (query.add negated (.name pattern true)).read false rest
  | "-path" :: pattern :: rest => (query.add negated (.path pattern)).read false rest
  | "-type" :: letter :: rest =>
    match kindOf? letter with
    | some kind => (query.add negated (.kind kind)).read false rest
    | none => .error ("Unknown argument to -type: " ++ letter)
  | "-maxdepth" :: n :: rest =>
    { query with greatestDepth := (natural? n).getD query.greatestDepth }.read negated rest
  | "-mindepth" :: n :: rest =>
    { query with leastDepth := (natural? n).getD query.leastDepth }.read negated rest
  | [word] =>
    if word ∈ ["-name", "-iname", "-path", "-type", "-maxdepth", "-mindepth"] then
      .error ("missing argument to " ++ Char.toString '\x60' ++ word ++ "'")
    else .error ("unknown predicate " ++ Char.toString '\x60' ++ word ++ "'")
  | word :: _ => .error ("unknown predicate " ++ Char.toString '\x60' ++ word ++ "'")

end Query

/-! ### Searching -/

/-- Whether a pattern fits a text, perhaps with letters of either case for the same. -/
def patternFits (pattern text : String) (sameLetters : Bool) : Bool :=
  let chars (text : String) : List Char :=
    if sameLetters then text.toList.map Char.toLower else text.toList
  Shell.Pattern.fits (Shell.Pattern.parts ((chars pattern).map fun c => (c, false))) (chars text)

/-- Whether something that is found meets a condition. -/
def meets (path : String) (status : FileStatus) : Condition → Run Bool
  | .name pattern same => return patternFits pattern (lastName path) same
  | .path pattern => return patternFits pattern path false
  | .kind kind => return kind = status.kind
  | .empty =>
    match status.kind with
    | .file => return status.size = 0
    | .directory => do
      match ← Run.call (.list path) with
      | .ok names => return names.isEmpty
      | .error _ => return false
    | _ => return false
  | .no condition => do return !(← meets path status condition)

/-- Tells of something that is found, or removes it. -/
def found (query : Query) (path : String) (status : FileStatus) : Run Bool := do
  let fits ← query.conditions.allM (meets path status)
  if !fits then return true
  else if query.delete then
    if path = "." then return true
    else
      let change : FileChange :=
        if status.kind = .directory then .removeDirectory path else .unlink path
      wentWell "find" ("cannot delete " ++ quoted path) (← change? change)
  else
    Run.print 1 (line path)
    return true

/-- Finds what a search asks for, within a bound on the depth. -/
def findBelow (query : Query) : Nat → Nat → String → Run Bool
  | 0, _, _ => return false
  | fuel + 1, depth, path => do
    match ← Run.call (.status path false) with
    | .error code => wentWell "find" (quoted path) (some code)
    | .ok status =>
      let own : Run Bool := if query.leastDepth ≤ depth then found query path status
          else return true
      let before ← if query.delete then pure true else own
      let inside ← if status.kind = .directory && depth < query.greatestDepth then do
          match ← Run.call (.list path) with
          | .ok names =>
            let status ← forAll (fun name =>
              findBelow query fuel (depth + 1) (below path name)) names 0
            pure (status == 0)
          | .error code => wentWell "find" (quoted path) (some code)
        else pure true
      let after ← if query.delete then own else pure true
      return before && inside && after

/-- Runs `find`. -/
def find (arguments : List String) (_ : List (String × String)) : Run Nat := do
  let isWord (text : String) : Bool := text.toList.head? = some '-' || text = "!"
  let paths := arguments.tail.takeWhile fun text => !isWord text
  match Query.all.read false (arguments.tail.drop paths.length) with
  | .ok query => forAll (findBelow query maxDepth 0) (if paths.isEmpty then ["."] else paths) 0
  | .error text => do
    complain "find" text
    return 1

end Runbook.Utility
