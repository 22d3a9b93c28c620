import Runbook.Utility.Basic
/-!
# Permission bits

Permission bits are written as an octal number or as changes for kinds of users, and `chmod` sets
them.
-/

set_option autoImplicit false

namespace Runbook.Utility

open Machine Sandbox

/-! ### Permissions -/

/-- The permission bits of letters, for all three kinds of users. -/
def bitsOf (mode : Nat) (directory : Bool) : List Char → Nat
  | [] => 0
  | c :: rest =>
    let bits := match c with
      | 'r' => 0o444
      | 'w' => 0o222
      | 'x' => 0o111
      | 'X' => if directory || mode &&& 0o111 != 0 then 0o111 else 0
      | 's' => 0o6000
      | 't' => 0o1000
      | _ => 0
    bits ||| bitsOf mode directory rest

/-- The bits that belong to kinds of users. -/
def usersOf (letters : List Char) : Nat :=
  letters.foldl (fun bits c => bits ||| match c with
    | 'u' => 0o4700
    | 'g' => 0o2070
    | 'o' => 0o1007
    | _ => 0o7777) 0

/-- Permission bits after one change of letters. -/
def changedBy? (mask : Nat) (directory : Bool) (mode : Nat) (clause : String) : Option Nat :=
  let chars := clause.toList
  let users := chars.takeWhile (· ∈ ['u', 'g', 'o', 'a'])
  let reach := if users.isEmpty then 0o7777 ^^^ mask else usersOf users
  match chars.drop users.length with
  | sign :: letters =>
    if !letters.all (· ∈ ['r', 'w', 'x', 'X', 's', 't']) then none
    else
      let bits := bitsOf mode directory letters &&& reach
      match sign with
      | '+' => some (mode ||| bits)
      | '-' => some (mode ^^^ (mode &&& bits))
      | '=' => some ((mode ^^^ (mode &&& (reach &&& 0o777))) ||| bits)
      | _ => none
  | [] => none

/-- Permission bits as they are written: as an octal number or as changes. -/
def modeOf? (mask : Nat) (directory : Bool) (mode : Nat) (text : String) : Option Nat :=
  if text != "" && text.toList.all Shell.Printing.isOctal then
    some (text.toList.foldl (fun value c => value * 8 + (c.toNat - '0'.toNat)) 0)
  else (text.splitOn ",").foldlM (changedBy? mask directory) mode

/-! ### Setting -/

/-- Changes permission bits, within a bound on the depth. -/
def changeMode (mask : Nat) (recursive : Bool) (mode : String) : Nat → String → Run Bool
  | 0, _ => return false
  | fuel + 1, path => do
    match ← Run.call (.status path true) with
    | .error code => wentWell "chmod" ("cannot access " ++ quoted path) (some code)
    | .ok status =>
      let isDirectory := status.kind = .directory
      match modeOf? mask isDirectory status.mode mode with
      | none => do
        complainOfUse "chmod" ("invalid mode: " ++ quoted mode)
        return false
      | some bits => do
        let well ← wentWell "chmod" ("changing permissions of " ++ quoted path)
          (← change? (.changeMode path bits))
        if recursive && isDirectory then
          match ← Run.call (.list path) with
          | .ok names =>
            let inside ← forAll (fun name =>
              changeMode mask recursive mode fuel (below path name)) names 0
            return well && inside = 0
          | .error _ => return false
        else return well

/-- Runs `chmod`. -/
def chmod (arguments : List String) (_ : List (String × String)) : Run Nat := do
  let (recursive, operands) := match arguments.tail with
    | "-R" :: rest => (true, rest)
    | rest => (false, rest)
  match operands with
  | [] =>
    complainOfUse "chmod" "missing operand"
    return 1
  | [mode] =>
    complainOfUse "chmod" ("missing operand after " ++ quoted mode)
    return 1
  | mode :: paths =>
    let mask : Nat ← Run.call (.mask none)
    forAll (changeMode mask recursive mode maxDepth) paths 0

end Runbook.Utility
