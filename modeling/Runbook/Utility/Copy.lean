import Runbook.Utility.Basic
/-!
# Utilities that remove, copy and move

`rm` removes files and all below a directory. `cp`, `mv` and `ln` go from each of some paths to a
place in or at the last one.
-/

set_option autoImplicit false

namespace Runbook.Utility

open Machine Sandbox

/-! ### Removing -/

/-- Removes a directory that holds nothing, or something else. -/
def removeOne (verbose : Bool) (path : String) (isDirectory : Bool) : Run Bool := do
  let failure ← change? (if isDirectory then .removeDirectory path else .unlink path)
  if verbose && failure.isNone then
    Run.print 1 ("removed " ++ (if isDirectory then "directory " else "") ++ line (quoted path))
  wentWell "rm" ("cannot remove " ++ quoted path) failure

/-- Removes something with all that is in it, within a bound on the depth. -/
def removeAll (silent verbose : Bool) : Nat → String → Run Bool
  | 0, _ => return false
  | fuel + 1, path => do
    match ← Run.call (.status path false) with
    | .error code =>
      if silent && code = Errno.noEntry then return true
      else wentWell "rm" ("cannot remove " ++ quoted path) (some code)
    | .ok status =>
      if status.kind = .directory then
        match ← Run.call (.list path) with
        | .error code => wentWell "rm" ("cannot remove " ++ quoted path) (some code)
        | .ok names =>
          let _ ← forAll (fun name => removeAll silent verbose fuel (below path name)) names 0
          removeOne verbose path true
      else removeOne verbose path false

/-- Runs `rm`. -/
def rm (arguments : List String) (_ : List (String × String)) : Run Nat :=
  withGiven "rm" ⟨"dfiIrRv", "", "", [("force", 'f'), ("recursive", 'r'), ("dir", 'd'),
      ("verbose", 'v')], false, 1⟩ arguments fun given => do
    let silent := given.has 'f'
    if given.others.isEmpty && !silent then
      complainOfUse "rm" "missing operand"
      return 1
    else
      forAll (fun path => do
        if given.has 'r' || given.has 'R' then removeAll silent (given.has 'v') maxDepth path
        else
          match ← Run.call (.status path false) with
          | .error code =>
            if silent && (code = Errno.noEntry || code = Errno.notDirectory) then return true
            else wentWell "rm" ("cannot remove " ++ quoted path) (some code)
          | .ok status =>
            if status.kind = .directory && !given.has 'd' then
              wentWell "rm" ("cannot remove " ++ quoted path) (some Errno.isDirectory)
            else removeOne (given.has 'v') path (status.kind = .directory))
        given.others 0

/-! ### Copying and moving -/

/-- Copies the content of a file, and its permission bits to a new one. -/
def copyContent (source target : String) (status : FileStatus) (keepMode : Bool) : Run Bool := do
  match ← Run.readFile source with
  | .error code => wentWell "cp" ("cannot open " ++ quoted source ++ " for reading") (some code)
  | .ok bytes =>
    let isNew := (← statusAt? target true).isNone
    match ← Run.call (.openFile target ⟨true, false, true, true⟩ false) with
    | .error code => wentWell "cp" ("cannot create regular file " ++ quoted target) (some code)
    | .ok descriptor =>
      let _ ← Run.write descriptor bytes
      Run.call (.close descriptor)
      if (isNew || keepMode) && status.kind = .file then
        let mask : Nat ← Run.call (.mask none)
        let mode := if keepMode then status.mode else status.mode ^^^ (status.mode &&& mask)
        let _ ← change? (.changeMode target mode)
      return true

/-- Tells of a source and a target, if that is wanted. -/
def tellPair (given : Given) (source target : String) : Run Unit := do
  if given.has 'v' then Run.print 1 (line (quoted source ++ " -> " ++ quoted target))

/-- Copies something with all that is in it, within a bound on the depth. -/
def copyAll (given : Given) (recursive top : Bool) : Nat → String → String → Run Bool
  | 0, _, _ => return false
  | fuel + 1, source, target => do
    let follow := !recursive || given.has 'L' || (top && given.has 'H')
    match ← Run.call (.status source follow) with
    | .error code => wentWell "cp" ("cannot stat " ++ quoted source) (some code)
    | .ok status =>
      match status.kind with
      | .directory =>
        if !recursive then
          complain "cp" ("-r not specified; omitting directory " ++ quoted source)
          return false
        else
          let made ← if ← isDirectory target then pure true else do
            tellPair given source target
            wentWell "cp" ("cannot create directory " ++ quoted target)
              (← change? (.makeDirectory target))
          if !made then return false
          else
            match ← Run.call (.list source) with
            | .error code => wentWell "cp" ("cannot access " ++ quoted source) (some code)
            | .ok names =>
              let copied ← forAll (fun name =>
                copyAll given recursive false fuel (below source name) (below target name)) names 0
              return copied = 0
      | .link =>
        match ← Run.call (.readLink source) with
        | .error code => wentWell "cp" ("cannot read symbolic link " ++ quoted source) (some code)
        | .ok content =>
          let _ ← change? (.unlink target)
          wentWell "cp" ("cannot create symbolic link " ++ quoted target)
            (← change? (.makeLink content target))
      | _ =>
        let other ← statusAt? target true
        if other.any fun other => other.node = status.node then
          complain "cp" (quoted source ++ " and " ++ quoted target ++ " are the same file")
          return false
        else if other.any fun other => other.kind = .directory then
          complain "cp" ("cannot overwrite directory " ++ quoted target ++ " with non-directory")
          return false
        else if given.has 'n' && other.isSome then return true
        else
          tellPair given source target
          copyContent source target status (given.has 'p' || given.has 'a')

/-- Does something from each of some paths to a place in or at the last one. -/
def toTarget (name : String) (given : Given) (work : String → String → Run Bool) : Run Nat := do
  match given.others.reverse with
  | [] =>
    complainOfUse name "missing file operand"
    return 1
  | [only] =>
    complainOfUse name ("missing destination file operand after " ++ quoted only)
    return 1
  | target :: sources =>
    if (← isDirectory target) && !given.has 'T' then
      forAll (fun source => work source (below target (lastName source))) sources.reverse 0
    else
      match sources with
      | [source] => forAll (fun source => work source target) [source] 0
      | _ =>
        match ← Run.call (.status target true) with
        | .ok _ => complain name ("target " ++ quoted target ++ ": Not a directory")
        | .error code => complain name ("target " ++ quoted target ++ ": " ++ Errno.text code)
        return 1

/-- The options of `cp`. -/
def cpOptions : OptionTable where
  plain := "abdfHiLlnpPRrsTuvxZ"
  valued := "tS"
  long := [("archive", 'a'), ("force", 'f'), ("no-clobber", 'n'), ("recursive", 'r'),
    ("verbose", 'v'), ("preserve", 'p'), ("dereference", 'L'), ("no-target-directory", 'T')]

/-- Runs `cp`. -/
def cp (arguments : List String) (_ : List (String × String)) : Run Nat :=
  withGiven "cp" cpOptions arguments fun given =>
    let recursive := given.has 'r' || given.has 'R' || given.has 'a'
    toTarget "cp" given (copyAll given recursive true maxDepth)

/-- The options of `mv`. -/
def mvOptions : OptionTable where
  plain := "bfinTuvZ"
  valued := "tS"
  long := [("force", 'f'), ("no-clobber", 'n'), ("verbose", 'v'), ("no-target-directory", 'T')]

/-- Runs `mv`. -/
def mv (arguments : List String) (_ : List (String × String)) : Run Nat :=
  withGiven "mv" mvOptions arguments fun given => toTarget "mv" given fun source target => do
    match ← Run.call (.status source false) with
    | .error code => wentWell "mv" ("cannot stat " ++ quoted source) (some code)
    | .ok status =>
      let other ← statusAt? target false
      if other.any fun other => other.node = status.node then
        complain "mv" (quoted source ++ " and " ++ quoted target ++ " are the same file")
        return false
      else if given.has 'n' && other.isSome then return true
      else if other.any (fun other => other.kind = .directory) && status.kind != .directory then
        complain "mv" ("cannot overwrite directory " ++ quoted target ++ " with non-directory")
        return false
      else
        match ← change? (.rename source target) with
        | none => do
          if given.has 'v' then
            Run.print 1 ("renamed " ++ line (quoted source ++ " -> " ++ quoted target))
          return true
        | some code =>
          if code = Errno.invalid then
            complain "mv" ("cannot move " ++ quoted source ++ " to a subdirectory of itself, " ++
              quoted target)
            return false
          else
            wentWell "mv" ("cannot move " ++ quoted source ++ " to " ++ quoted target) (some code)

/-! ### Links -/

/-- Makes one link. -/
def linkOne (given : Given) (source target : String) : Run Bool := do
  if given.has 'f' then
    let _ ← change? (.unlink target)
  let tell (sign : String) (failure : Option Errno) : Run Unit := do
    if given.has 'v' && failure.isNone then
      Run.print 1 (line (quoted target ++ sign ++ quoted source))
  if given.has 's' then
    let failure ← change? (.makeLink source target)
    tell " -> " failure
    wentWell "ln" ("failed to create symbolic link " ++ quoted target) failure
  else if (← statusAt? source false).isNone then
    wentWell "ln" ("failed to access " ++ quoted source) (some Errno.noEntry)
  else
    let failure ← change? (.addName source target)
    tell " => " failure
    wentWell "ln" ("failed to create hard link " ++ quoted target) failure

/-- The options of `ln`. -/
def lnOptions : OptionTable where
  plain := "bdfFiLnPrsTv"
  valued := "tS"
  long := [("force", 'f'), ("symbolic", 's'), ("no-dereference", 'n'), ("verbose", 'v'),
    ("no-target-directory", 'T')]

/-- Runs `ln`. -/
def ln (arguments : List String) (_ : List (String × String)) : Run Nat :=
  withGiven "ln" lnOptions arguments fun given => do
  match given.others with
  | [only] => forAll (fun source => linkOne given source (lastName source)) [only] 0
  | [source, target] =>
    let inside ← if given.has 'n' || given.has 'T' then do
        pure ((← statusAt? target false).any fun status => status.kind = .directory)
      else isDirectory target
    forAll (fun source => linkOne given source
        (if inside then below target (lastName source) else target))
      [source] 0
  | _ => toTarget "ln" given (linkOne given)

end Runbook.Utility
