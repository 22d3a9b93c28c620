import Runbook.Text.Line
/-!
# Paths

A path is a text; slashes part its components. Repeated and trailing slashes count for nothing, and
so do components that are a full stop, except one that starts a path which is not absolute.
`components` is the view through which all other functions look at a path.

`join` is textual: it keeps the spelling of both paths, and an absolute second path replaces the
first. `parent?` cuts the last component off and keeps the spelling of what stands before it.
-/

set_option autoImplicit false

namespace Runbook.Path

open Text

/-- A component of a path. -/
inductive Component where
  /-- The start of an absolute path. -/
  | root
  /-- A full stop at the start of a path. -/
  | current
  /-- Two full stops. -/
  | parent
  /-- The name of an entry. -/
  | normal (name : String)
deriving DecidableEq, Repr

namespace Component

/-- How a component is written. -/
def text : Component → String
  | root => "/"
  | current => "."
  | parent => ".."
  | normal name => name

/-- Whether a component is the name of an entry. -/
def isNormal : Component → Bool
  | normal _ => true
  | _ => false

/-- The component that a piece between slashes is; none for an empty piece and for a full stop. -/
def ofPiece? (piece : List Char) : Option Component :=
  if piece = [] ∨ piece = ['.'] then none
  else if piece = ['.', '.'] then some parent
  else some (normal (String.ofList piece))

end Component

/-- Whether a path is absolute. -/
def isAbsolute (path : String) : Bool := path.toList.head? = some '/'

/-- The components of a path. -/
def components (path : String) : List Component :=
  let pieces := splitAt '/' path.toList
  let start :=
    if isAbsolute path then [Component.root]
    else if pieces.head? = some ['.'] then [Component.current] else []
  start ++ pieces.filterMap Component.ofPiece?

/-- A path below another one. An absolute second path replaces the first. -/
def join (base path : String) : String :=
  if isAbsolute path then path
  else if base.isEmpty || base.toList.getLast? = some '/' then base ++ path
  else base ++ "/" ++ path

/-- Drops trailing slashes and full stops between slashes, up to a number of characters. The text
is given from its end; the first character of the path always stays. -/
def trimSpelling : Nat → List Char → List Char
  | 0, reversed => reversed
  | fuel + 1, reversed =>
    match reversed with
    | '/' :: c :: rest => trimSpelling fuel (c :: rest)
    | '.' :: '/' :: rest => trimSpelling fuel ('/' :: rest)
    | _ => reversed

/-- The path without its last component, in its own spelling. An absolute path without names and
the empty path have none. -/
def parent? (path : String) : Option String :=
  match (components path).getLast? with
  | none => none
  | some .root => none
  | some _ =>
    let trimmed := trimSpelling path.length path.toList.reverse
    let before := trimmed.dropWhile (· != '/')
    some (String.ofList (trimSpelling path.length before).reverse)

/-- The name of the entry that a path ends in. -/
def fileName? (path : String) : Option String :=
  match (components path).getLast? with
  | some (.normal name) => some name
  | _ => none

/-- A file name cut at its last full stop. A name that starts with its only full stop is not
cut. -/
def splitName (name : String) : String × Option String :=
  let reversed := name.toList.reverse
  let before := (reversed.dropWhile (· != '.')).drop 1
  if before.isEmpty then (name, none)
  else (String.ofList before.reverse, some (String.ofList (reversed.takeWhile (· != '.')).reverse))

/-- The file name of a path without its extension. -/
def fileStem? (path : String) : Option String := (fileName? path).map fun name => (splitName name).1

/-- The extension of the file name of a path. -/
def extension? (path : String) : Option String :=
  (fileName? path).bind fun name => (splitName name).2

/-- Whether the components of a path start with those of another. -/
def isBelow (path base : String) : Bool := (components base).isPrefixOf (components path)

/-! ### Order -/

/-- The place of the kind of a component in the order of components. -/
def Component.rank : Component → Nat
  | root => 0
  | current => 1
  | parent => 2
  | normal _ => 3

/-- Whether a component stands before another: by kind, and names by their characters. -/
def Component.isBefore (first second : Component) : Bool :=
  if first.rank = second.rank then first.text < second.text else first.rank < second.rank

/-- Whether a list of components stands before another in lexicographic order. -/
def componentsBefore : List Component → List Component → Bool
  | _, [] => false
  | [], _ :: _ => true
  | a :: as, b :: bs => if a = b then componentsBefore as bs else a.isBefore b

/-- Whether a path stands before another in the order of their components. -/
def isBefore (first second : String) : Bool :=
  componentsBefore (components first) (components second)

end Runbook.Path
