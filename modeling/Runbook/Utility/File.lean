import Runbook.Utility.Basic
/-!
# Utilities on files

Where paths lead, what files are, and whether two of them hold the same.
-/

set_option autoImplicit false

namespace Runbook.Utility

open Machine Sandbox

/-! ### Paths -/

/-- The path without links of something that may be missing in a directory that is there. -/
def canonical (path : String) : Run (Except Errno String) := do
  match ← Run.call (.canonical path) with
  | .ok text => return .ok text
  | .error code =>
    match (FileSystem.pieces path).getLast? with
    | none => return .error code
    | some name =>
      let trimmed := path.toList.reverse.dropWhile (· = '/')
      let before := String.ofList (trimmed.drop name.length).reverse
      if code != Errno.noEntry || (← statusAt? path false).isSome then return .error code
      else
        match ← Run.call (.canonical (if before = "" then "." else before)) with
        | .ok directory => return .ok (below directory name)
        | .error code => return .error code

/-- Runs `readlink`. -/
def readlink (arguments : List String) (_ : List (String × String)) : Run Nat :=
  withOperands "readlink" ⟨"efmnqsvz", "", "", [("canonicalize", 'f'),
      ("canonicalize-existing", 'e'), ("no-newline", 'n')], false, 1⟩ arguments fun given =>
    forAll (fun path => do
      let answer ← if given.has 'e' then Run.call (.canonical path)
        else if given.has 'f' then canonical path
        else Run.call (.readLink path)
      match answer with
      | .ok text => do
        Run.print 1 (if given.has 'n' then text else line text)
        return true
      | .error _ => return false) given.others 0

/-- Runs `realpath`. -/
def realpath (arguments : List String) (_ : List (String × String)) : Run Nat :=
  withOperands "realpath" { plain := "eLmPqsz" } arguments fun given =>
    forAll (fun path => do
      match ← if given.has 'e' then Run.call (.canonical path) else canonical path with
      | .ok text => do
        Run.print 1 (line text)
        return true
      | .error code => wentWell "realpath" path (some code)) given.others 0

/-! ### Files -/

/-- Runs `touch`. -/
def touch (arguments : List String) (_ : List (String × String)) : Run Nat :=
  withGiven "touch" { plain := "acfhm", valued := "dtr", long := [("no-create", 'c')] } arguments
    fun given => do
      if given.others.isEmpty then
        complainOfUse "touch" "missing file operand"
        return 1
      else
        forAll (fun path => do
          if (← statusAt? path true).isSome || given.has 'c' then return true
          else
            match ← Run.call (.openFile path ⟨true, false, false, true⟩ false) with
            | .ok descriptor => do
              Run.call (.close descriptor)
              return true
            | .error code =>
              let code := if code = Errno.isDirectory then Errno.noEntry else code
              wentWell "touch" ("cannot touch " ++ quoted path) (some code)) given.others 0

/-! ### Looking -/

/-- What a letter of a format says about a file. -/
def statusText (path : String) (status : FileStatus) : Char → String
  | 'a' => String.ofList (Nat.toDigits 8 status.mode)
  | 's' => toString status.size
  | '%' => "%"
  | 'n' => path
  | 'F' =>
    match status.kind with
    | .file => if status.size = 0 then "regular empty file" else "regular file"
    | .directory => "directory"
    | .link => "symbolic link"
    | .special => "character special file"
  | c => "?" ++ c.toString

/-- A format with what it says about a file. -/
def statusLine (path : String) (status : FileStatus) : List Char → String
  | '%' :: c :: rest => statusText path status c ++ statusLine path status rest
  | c :: rest => c.toString ++ statusLine path status rest
  | [] => ""

/-- Runs `stat`. -/
def stat (arguments : List String) (_ : List (String × String)) : Run Nat :=
  withOperands "stat" { plain := "Lft", valued := "c", long := [("format", 'c'),
      ("dereference", 'L')] }
    arguments fun given => forAll (fun path => do
      match ← Run.call (.status path (given.has 'L')) with
      | .ok status => do
        Run.print 1 (line (statusLine path status ((given.value? 'c').getD "%n").toList))
        return true
      | .error code => wentWell "stat" ("cannot statx " ++ quoted path) (some code)) given.others 0

/-- Runs `cmp`. -/
def cmp (arguments : List String) (_ : List (String × String)) : Run Nat :=
  withGiven "cmp" ⟨"bls", "in", "", [("silent", 's'), ("quiet", 's')], false, 2⟩
      arguments fun given => do
  match given.others.take 2 ++ (if given.others.length = 1 then ["-"] else []) with
  | [first, second] =>
    match ← contentOf first, ← contentOf second with
    | .ok a, .ok b =>
      if a = b then return 0
      else
        let same := (a.zip b).takeWhile fun (x, y) => x = y
        if !given.has 's' then
          let newlines := (same.map Prod.fst).count 10
          if same.length = min a.length b.length then
            let shorter := if a.length < b.length then first else second
            complain "cmp" ("EOF on " ++ shorter ++
              if same.isEmpty then " which is empty"
              else if (same.getLast?.map Prod.fst) = some 10 then
                " after byte " ++ toString same.length ++ ", line " ++ toString newlines
              else " after byte " ++ toString same.length ++ ", in line " ++
                  toString (newlines + 1))
          else
            Run.print 1 (line (first ++ " " ++ second ++ " differ: char " ++
              toString (same.length + 1) ++ ", line " ++ toString (newlines + 1)))
        return 1
    | .error code, _ =>
      complain "cmp" (first ++ ": " ++ Errno.text code)
      return 2
    | _, .error code =>
      complain "cmp" (second ++ ": " ++ Errno.text code)
      return 2
  | _ =>
    complain "cmp" "missing operand after 'cmp'\ncmp: Try 'cmp --help' for more information."
    return 2

end Runbook.Utility
