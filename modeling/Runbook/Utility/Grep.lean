import Runbook.Utility.Regex
import Runbook.Utility.Stream
/-!
# Picking lines

`grep` picks the lines in which an expression occurs, and tells of them or of the files that hold
them. Lines around a picked one may be shown too.
-/

set_option autoImplicit false

namespace Runbook.Utility

open Sandbox

/-! ### Patterns -/

/-- What lines are searched for. -/
structure Wanted where
  patterns : List Regex
  sameLetters : Bool
  /-- Whether what is found has to be a word. -/
  words : Bool
  /-- Whether what is found has to be the whole line. -/
  wholeLines : Bool
  negated : Bool

namespace Wanted

/-- What options and the texts of patterns ask for; every line of a text is a pattern. -/
def read? (given : Given) (extended : Bool) (texts : List String) : Option Wanted := do
  let lines := (texts.map fun text => linesOf (text ++ "\n")).flatten
  let patterns ← lines.mapM fun text =>
    if given.has 'F' then some (Regex.ofText text) else Regex.parse? extended text
  return ⟨patterns, given.has 'i' || given.has 'y', given.has 'w', given.has 'x', given.has 'v'⟩

/-- Whether a way to fit counts, given the character before it. -/
def counts (wanted : Wanted) (before : Option Char) (fit : Regex.Fit) : Bool :=
  (!wanted.words || !(before.any Regex.Fit.isWordChar || fit.sides.2)) &&
    (!wanted.wholeLines || (before.isNone && fit.rest.isEmpty))

/-- The first place at which one of some expressions fits: what stands before it, and how it
fits. -/
def search? (wanted : Wanted) : Option Char → List Char → List Char → Option (List Char × Regex.Fit)
  | before, passed, text =>
    let ways := wanted.patterns.flatMap fun regex =>
      (regex.fits wanted.sameLetters (.ofText before text)).filter (wanted.counts before)
    match Regex.longest ways with
    | some fit => some (passed.reverse, fit)
    | none =>
      match text with
      | [] => none
      | c :: rest => wanted.search? (some c) (c :: passed) rest

/-- Whether a line is picked. -/
def picks (wanted : Wanted) (text : String) : Bool :=
  (wanted.search? none [] text.toList).isSome != wanted.negated

/-- The places of a line that are found, within a bound. -/
def occurrences (wanted : Wanted) : Nat → Option Char → List Char → List String
  | 0, _, _ => []
  | fuel + 1, before, text =>
    match wanted.search? before [] text with
    | none => []
    | some (passed, fit) =>
      if fit.length = 0 then
        match fit.rest with
        | [] => []
        | c :: rest => wanted.occurrences fuel (some c) rest
      else
        String.ofList ((text.drop passed.length).take fit.length) ::
          wanted.occurrences fuel fit.before fit.rest

end Wanted

/-! ### Telling -/

/-- A line that is shown: its number and whether it is picked. -/
structure Shown where
  number : Nat
  text : String
  picked : Bool
deriving DecidableEq, Repr

/-- The lines to show: those that are picked and some before and after each. -/
def withContext (before after : Nat) (lines : List (String × Bool)) : List Shown :=
  let near (i : Nat) (picked : Bool) : Bool :=
    if before = 0 && after = 0 then picked
    else ((lines.take (i + before + 1)).drop (i - after)).any Prod.snd
  lines.zipIdx.filterMap fun ((text, picked), i) =>
    if near i picked then some ⟨i + 1, text, picked⟩ else none

/-- The lines of a file as they are told, with marks between pieces that are apart. -/
def tellLines (given : Given) (wanted : Wanted) (place : Option String) (context : Bool)
    (shown : List Shown) : Run Unit := do
  let mut last := 0
  for entry in shown do
    if context && last != 0 && entry.number != last + 1 then Run.print 1 "--\n"
    last := entry.number
    let mark := if entry.picked then ":" else "-"
    let start := (place.map (· ++ mark)).getD "" ++
      (if given.has 'n' then toString entry.number ++ mark else "")
    if given.has 'o' then
      if !wanted.negated then
        for piece in wanted.occurrences (entry.text.length + 1) none entry.text.toList do
          Run.print 1 (line (start ++ piece))
    else Run.print 1 (line (start ++ entry.text))

/-- The options of `grep`. -/
def grepOptions : OptionTable where
  plain := "abcEFGhHiILlnoqrRsuUvVwxyzZ"
  valued := "ABCDdefm"
  long := [("extended-regexp", 'E'), ("fixed-strings", 'F'), ("ignore-case", 'i'),
    ("invert-match", 'v'), ("word-regexp", 'w'), ("line-regexp", 'x'), ("count", 'c'),
    ("files-with-matches", 'l'), ("files-without-match", 'L'), ("max-count", 'm'),
    ("only-matching", 'o'), ("quiet", 'q'), ("silent", 'q'), ("no-messages", 's'),
    ("line-number", 'n'), ("recursive", 'r'), ("regexp", 'e'), ("after-context", 'A'),
    ("before-context", 'B'), ("context", 'C'), ("with-filename", 'H'), ("no-filename", 'h')]
  failure := 2

/-- How `grep` is used. -/
def grepUse : String :=
  "Usage: grep [OPTION]... PATTERNS [FILE]...\nTry 'grep --help' for more information.\n"

/-- All files below a directory, within a bound on the depth. -/
def filesBelow : Nat → String → Run (List String)
  | 0, _ => return []
  | fuel + 1, path => do
    if ← isDirectory path then
      match ← Run.call (.list path) with
      | .ok names => return (← names.mapM fun name => filesBelow fuel (below path name)).flatten
      | .error _ => return []
    else return [path]

/-- Searches files: the status. -/
def grepFiles (given : Given) (wanted : Wanted) (paths : List String) : Run Nat := do
  let recursive := given.has 'r' || given.has 'R'
  let paths ← if recursive then
      pure (← (if paths.isEmpty then ["."] else paths).mapM (filesBelow maxDepth)).flatten
    else pure (if paths.isEmpty then ["-"] else paths)
  let named := (paths.length > 1 || recursive || given.has 'H') && !given.has 'h'
  let limit := (given.value? 'm').bind natural?
  let around (option : Char) : Nat :=
    (((given.value? option).orElse fun () => given.value? 'C').bind natural?).getD 0
  let context := around 'A' != 0 || around 'B' != 0
  let mut failed := false
  let mut found := false
  for path in paths do
    if ← if path = "-" then pure false else isDirectory path then
      complain "grep" (path ++ ": Is a directory")
    else
      match ← contentOf path with
      | .error code =>
        failed := true
        if !given.has 's' then complain "grep" (path ++ ": " ++ Errno.text code)
      | .ok bytes =>
        let lines := (linesOf (ByteText.ofBytes bytes)).map fun text => (text, wanted.picks text)
        let lines := match limit with
          | some n => (lines.foldl (fun (done : Nat × List (String × Bool)) entry =>
              if done.1 < n then (done.1 + (if entry.2 then 1 else 0), entry :: done.2)
              else done) (0, [])).2.reverse
          | none => lines
        let count := (lines.filter Prod.snd).length
        let shown := if path = "-" then "(standard input)" else path
        let told := (count == 0) == given.has 'L'
        if count != 0 then found := true
        if given.has 'q' then pure ()
        else if given.has 'l' || given.has 'L' then
          if told then Run.print 1 (line shown)
        else if given.has 'c' then
          Run.print 1 (line ((if named then shown ++ ":" else "") ++ toString count))
        else
          tellLines given wanted (if named then some shown else none) context
            (withContext (around 'B') (around 'A') lines)
  return if failed && !(found && given.has 'q') then 2 else if found then 0 else 1

/-- Runs `grep`. -/
def grepAs (extended : Bool) (arguments : List String) (_ : List (String × String)) : Run Nat := do
  match grepOptions.read arguments.tail with
  | .error fault => do
    complain "grep" fault.message
    Run.print 2 grepUse
    return 2
  | .ok given =>
    let (texts, paths) := match given.values 'e', given.others with
      | [], pattern :: paths => ([pattern], paths)
      | [], [] => ([], [])
      | texts, paths => (texts, paths)
    if texts.isEmpty then
      Run.print 2 grepUse
      return 2
    else
      match Wanted.read? given (extended || given.has 'E') texts with
      | some wanted => grepFiles given wanted paths
      | none => do
        complain "grep" "Invalid regular expression"
        return 2

end Runbook.Utility
