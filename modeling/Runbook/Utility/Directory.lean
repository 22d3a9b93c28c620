import Runbook.Utility.Mode
/-!
# Utilities on directories

`ls` lists what directories hold, `mkdir` makes them, and `rmdir` removes them.
-/

set_option autoImplicit false

namespace Runbook.Utility

open Machine Sandbox

/-! ### Listing -/

/-- The names in a directory that are shown. -/
def shownNames (given : Given) (names : List String) : List String :=
  let names := if given.has 'a' then "." :: ".." :: names
    else if given.has 'A' then names
    else names.filter fun name => name.toList.head? != some '.'
  if given.has 'r' then names.reverse else names

/-- A name with the sign of its kind, if that is wanted. -/
def withSign (given : Given) (path name : String) : Run String := do
  if given.has 'p' || given.has 'F' then
    match ← statusAt? path false with
    | some status =>
      let sign := match status.kind with
        | .directory => "/"
        | .link => if given.has 'F' then "@" else ""
        | _ => if given.has 'F' && status.mode &&& 0o111 != 0 then "*" else ""
      return name ++ sign
    | none => return name
  else return name

/-- Lists a directory, and those in it when that is wanted. -/
def listDirectory (given : Given) : Nat → Bool → String → Run Unit
  | 0, _, _ => return
  | fuel + 1, titled, path => do
    match ← Run.call (.list path) with
    | .error code => complain "ls" ("cannot open directory " ++ quoted path ++ ": " ++
        Errno.text code)
    | .ok names =>
      if titled then Run.print 1 (line (path ++ ":"))
      let shown := shownNames given names
      for name in shown do
        Run.print 1 (line (← withSign given (below path name) name))
      if given.has 'R' then
        for name in shown do
          if name != "." && name != ".." then
            match ← statusAt? (below path name) false with
            | some status =>
              if status.kind = .directory then
                Run.print 1 "\n"
                listDirectory given fuel true (below path name)
            | none => pure ()

/-- The options of `ls`. -/
def lsOptions : OptionTable where
  plain := "aAbBcCdfFgGhHiklLmnNopqQrRsStuUvxXZ1"
  valued := "ITw"
  long := [("all", 'a'), ("almost-all", 'A'), ("directory", 'd'), ("classify", 'F'),
    ("reverse", 'r'), ("recursive", 'R'), ("dereference", 'L')]
  failure := 2

/-- Runs `ls`. -/
def ls (arguments : List String) (_ : List (String × String)) : Run Nat :=
  withGiven "ls" lsOptions arguments fun given => do
  let paths := (if given.others.isEmpty then ["."] else given.others).mergeSort fun a b => !(b < a)
  let mut failed := false
  let mut files : List String := []
  let mut directories : List String := []
  for path in paths do
    match ← Run.call (.status path true) with
    | .ok status =>
      if status.kind = .directory && !given.has 'd' then directories := directories ++ [path]
      else files := files ++ [path]
    | .error code =>
      if (← statusAt? path false).isSome then files := files ++ [path]
      else
        complain "ls" ("cannot access " ++ quoted path ++ ": " ++ Errno.text code)
        failed := true
  for path in files do
    Run.print 1 (line (← withSign given path path))
  let titled := paths.length > 1 || given.has 'R'
  let mut first := files.isEmpty
  for path in directories do
    if !first then Run.print 1 "\n"
    first := false
    listDirectory given maxDepth titled path
  return if failed then 2 else 0

/-! ### Directories -/

/-- The paths that a path goes through, the path itself last. -/
def stations (path : String) : List String :=
  let names := FileSystem.pieces path
  (List.range names.length).map fun i =>
    (if path.toList.head? = some '/' then "/" else "") ++ "/".intercalate (names.take (i + 1))

/-- Tells of a directory that has been made, if that is wanted. -/
def tellMade (verbose : Bool) (path : String) : Run Unit := do
  if verbose then Run.print 1 ("mkdir: created directory " ++ line (quoted path))

/-- Makes directories as far as they are missing. -/
def makeAll (verbose : Bool) : List String → Run Bool
  | [] => return true
  | path :: rest => do
    match ← change? (.makeDirectory path) with
    | none => do
      tellMade verbose path
      makeAll verbose rest
    | some code =>
      if ← isDirectory path then makeAll verbose rest
      else wentWell "mkdir" ("cannot create directory " ++ quoted path) (some code)

/-- Makes a directory, with permission bits if any are given. -/
def makeOne (given : Given) (mode : Option Nat) (path : String) : Run Bool := do
  let made ← if given.has 'p' then makeAll (given.has 'v') (stations path)
    else do
      let failure ← change? (.makeDirectory path)
      if failure.isNone then tellMade (given.has 'v') path
      wentWell "mkdir" ("cannot create directory " ++ quoted path) failure
  match mode with
  | none => return made
  | some mode =>
    if !made then return false
    else
      let failure ← change? (.changeMode path mode)
      wentWell "mkdir" ("cannot set permissions of " ++ quoted path) failure

/-- Runs `mkdir`. -/
def mkdir (arguments : List String) (_ : List (String × String)) : Run Nat :=
  withOperands "mkdir" ⟨"pv", "m", "Z", [("parents", 'p'), ("mode", 'm'), ("verbose", 'v')],
      false, 1⟩
      arguments fun given => do
    let wanted := given.value? 'm'
    match wanted.bind (modeOf? 0 true 0o777) with
    | none =>
      if let some text := wanted then
        complain "mkdir" ("invalid mode " ++ quoted text)
        return 1
      else forAll (makeOne given none) given.others 0
    | some mode => forAll (makeOne given (some mode)) given.others 0

/-- Runs `rmdir`. -/
def rmdir (arguments : List String) (_ : List (String × String)) : Run Nat :=
  withOperands "rmdir" { plain := "pv", long := [("parents", 'p'), ("verbose", 'v')] } arguments
    fun given => forAll (fun path => do
      let paths := if given.has 'p' then (stations path).reverse else [path]
      let status ← forAll (fun path => do
        if given.has 'v' then Run.print 1 ("rmdir: removing directory, " ++ line (quoted path))
        wentWell "rmdir" ("failed to remove " ++ quoted path) (← change? (.removeDirectory path)))
        paths 0
      return status = 0) given.others 0

end Runbook.Utility
