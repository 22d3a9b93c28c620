import Runbook.Utility.Count
/-!
# Utilities on lines

`sort` puts lines in order, `uniq` leaves one of several that follow each other, and `cut` takes
parts of each. `rev` and `tac` turn lines and their order around, and `nl` numbers them.
-/

set_option autoImplicit false

namespace Runbook.Utility

open Sandbox

/-! ### Order -/

/-- The whole number at the start of a text. -/
def leadingNumber (text : String) : Int :=
  let trimmed := text.toList.dropWhile isSpace
  let (negative, digits) := match trimmed with
    | '-' :: rest => (true, rest)
    | _ => (false, trimmed)
  let value : Int := ((String.ofList (digits.takeWhile Char.isDigit)).toNat?.getD 0 : Nat)
  if negative then -value else value

/-- The fields of a line from one on up to another, counted from one. -/
def keyOf (separator : Option Char) (first : Nat) (last : Option Nat) (text : String) : String :=
  let fields := match separator with
    | some c => Text.splitAt c text.toList
    | none => (wordsOf text).map String.toList
  let chosen := (fields.take (last.getD fields.length)).drop (first - 1)
  String.ofList (Text.joinWith [separator.getD ' '] chosen)

/-- How lines are compared by a part of them: its bounds, and whether as numbers and in reverse. -/
structure SortKey where
  first : Nat
  last : Option Nat
  numeric : Bool
  reverse : Bool
deriving DecidableEq, Repr

/-- A part of lines to compare, as it is written. -/
def sortKeyOf (numeric reverse : Bool) (text : String) : SortKey :=
  let chars := text.toList
  let first := chars.takeWhile Char.isDigit
  let rest := chars.dropWhile fun c => c.isDigit || c = '.'
  let flags := rest.takeWhile (· != ',')
  let after := (rest.drop flags.length).drop 1
  let last := after.takeWhile Char.isDigit
  let all := flags ++ after
  ⟨(String.ofList first).toNat?.getD 1, (String.ofList last).toNat?, numeric || 'n' ∈ all,
    reverse || 'r' ∈ all⟩

/-- How two lines compare. -/
def compareLines (separator : Option Char) (fold : Bool) (key : SortKey) (a b : String) :
    Ordering :=
  let part (text : String) : String :=
    let text := if key.first = 1 && key.last.isNone then text
      else keyOf separator key.first key.last text
    if fold then String.ofList (text.toList.map Char.toUpper) else text
  let order := if key.numeric then compare (leadingNumber (part a)) (leadingNumber (part b))
    else compare (part a) (part b)
  if key.reverse then order.swap else order

/-- Lines of which none is like the one before it. -/
def dropRepeated (same : String → String → Bool) : List String → List String
  | [] => []
  | [last] => [last]
  | first :: second :: rest =>
    match dropRepeated same (second :: rest) with
    | [] => [first]
    | next :: more => if same first second then first :: more else first :: next :: more

/-- The options of `sort`. -/
def sortOptions : OptionTable where
  plain := "bcCdfghiMmnRrsuVz"
  valued := "kotST"
  long := [("reverse", 'r'), ("unique", 'u'), ("numeric-sort", 'n'), ("key", 'k'),
    ("field-separator", 't'), ("output", 'o'), ("ignore-case", 'f'), ("stable", 's'),
    ("check", 'c')]
  failure := 2

/-- The texts of files to sort, or nothing if one of them cannot be read. -/
def sortedTexts? (paths : List String) : Run (Option (List String)) := do
  let mut lines : List (List String) := []
  for path in if paths.isEmpty then ["-"] else paths do
    match ← contentOf path with
    | .ok bytes => lines := linesOf (ByteText.ofBytes bytes) :: lines
    | .error code =>
      complain "sort" ((if code = Errno.isDirectory then "read failed: " else "cannot read: ") ++
        path ++ ": " ++ Errno.text code)
      return none
  return some lines.reverse.flatten

/-- The number of the first line that is out of order, counted from one, and the line. -/
def disorder? (inOrder : String → String → Bool) : Nat → List String → Option (Nat × String)
  | number, first :: second :: rest =>
    if inOrder first second then disorder? inOrder (number + 1) (second :: rest)
    else some (number + 1, second)
  | _, _ => none

/-- Runs `sort`. -/
def sort (arguments : List String) (_ : List (String × String)) : Run Nat :=
  withGiven "sort" sortOptions arguments fun given => do
    let separator := (given.value? 't').bind fun text => text.toList.head?
    let keys := (given.values 'k').map (sortKeyOf (given.has 'n') (given.has 'r'))
    let whole : SortKey := ⟨1, none, given.has 'n', given.has 'r'⟩
    let keys := if keys.isEmpty then [whole] else keys
    let byKeys (a b : String) : Ordering :=
      keys.foldl (fun order key => order.then (compareLines separator (given.has 'f') key a b)) .eq
    let last (a b : String) : Ordering :=
      let order := compare a b
      if given.has 'r' then order.swap else order
    let stable := given.has 's' || given.has 'u'
    let inOrder (a b : String) : Bool :=
      (if stable then byKeys a b else (byKeys a b).then (last a b)) != .gt
    match ← sortedTexts? given.others with
    | none => return 2
    | some lines =>
      if given.has 'c' || given.has 'C' then
        let strict (a b : String) : Bool :=
          inOrder a b && !(given.has 'u' && byKeys a b = .eq)
        match disorder? strict 1 lines with
        | none => return 0
        | some (number, text) => do
          if given.has 'c' then
            complain "sort" ((given.others.head?.getD "-") ++ ":" ++ toString number ++
              ": disorder: " ++ text)
          return 1
      else
        let sorted := lines.mergeSort inOrder
        let kept := if given.has 'u' then dropRepeated (fun a b => byKeys a b = .eq) sorted
          else sorted
        match given.value? 'o' with
        | none => do
          Run.print 1 (unlines kept)
          return 0
        | some path =>
          match ← Run.call (.openFile path ⟨true, false, true, true⟩ false) with
          | .ok descriptor => do
            Run.print descriptor (unlines kept)
            return 0
          | .error code => do
            complain "sort" ("open failed: " ++ path ++ ": " ++ Errno.text code)
            return 2

/-! ### Repetitions -/

/-- Lines with the number of their repetitions. -/
def grouped (same : String → String → Bool) : List String → List (Nat × String)
  | [] => []
  | first :: rest =>
    match grouped same rest with
    | [] => [(1, first)]
    | (count, text) :: more =>
      if same text first then (count + 1, first) :: more else (1, first) :: (count, text) :: more

/-- Runs `uniq`. -/
def uniq (arguments : List String) (_ : List (String × String)) : Run Nat :=
  withGiven "uniq" { plain := "cdDiuz", valued := "fsw", long := [("count", 'c'), ("repeated", 'd'),
      ("unique", 'u'), ("ignore-case", 'i')] } arguments fun given => do
  let (text, status) ← allText "uniq" (given.others.take 1)
  let same (a b : String) : Bool :=
    if given.has 'i' then a.toList.map Char.toLower = b.toList.map Char.toLower else a = b
  for (count, text) in grouped same (linesOf text) do
    let wanted := if given.has 'd' then count > 1 else if given.has 'u' then count = 1 else true
    if wanted then
      Run.print 1 (line ((if given.has 'c' then padLeft 7 (toString count) ++ " " else "") ++ text))
  return status

/-! ### Parts -/

/-- Whether a number is in a list of ranges as they are written. -/
def inRanges (ranges : String) (n : Nat) : Bool :=
  (ranges.splitOn ",").any fun range =>
    match range.splitOn "-" with
    | [only] => only.toNat? = some n
    | [first, last] =>
      (first = "" || first.toNat?.any (· ≤ n)) && (last = "" || last.toNat?.any (n ≤ ·))
    | _ => false

/-- Runs `cut`. -/
def cut (arguments : List String) (_ : List (String × String)) : Run Nat :=
  withGiven "cut" { plain := "nsz", valued := "bcdf", long := [("delimiter", 'd'), ("fields", 'f'),
      ("characters", 'c'), ("bytes", 'b'), ("only-delimited", 's')] } arguments fun given => do
  let isTold := (given.options.any fun entry => entry.1 ∈ ['f', 'c', 'b'])
  let (text, status) ← if isTold then allText "cut" given.others else pure ("", 1)
  match given.value? 'f', (given.value? 'c').orElse fun () => given.value? 'b' with
  | some ranges, _ =>
    let separator := ((given.value? 'd').bind fun text => text.toList.head?).getD '\t'
    for text in linesOf text do
      if separator ∈ text.toList then
        let fields := (Text.splitAt separator text.toList).zipIdx.filterMap fun (field, i) =>
          if inRanges ranges (i + 1) then some field else none
        Run.print 1 (line (String.ofList (Text.joinWith [separator] fields)))
      else if !given.has 's' then Run.print 1 (line text)
    return status
  | none, some ranges =>
    for text in linesOf text do
      let chars := text.toList.zipIdx.filterMap fun (c, i) =>
        if inRanges ranges (i + 1) then some c else none
      Run.print 1 (line (String.ofList chars))
    return status
  | none, none =>
    complainOfUse "cut" "you must specify a list of bytes, characters, or fields"
    return 1

/-! ### Turning and numbering -/

/-- Runs `rev`. -/
def rev (arguments : List String) (_ : List (String × String)) : Run Nat := do
  let (text, status) ← allText "rev" arguments.tail
  let reversed := (linesOf text).map fun text => String.ofList text.toList.reverse
  let whole := unlines reversed
  Run.print 1 (if text.toList.getLast? = some '\n' then whole
      else String.ofList whole.toList.dropLast)
  return status

/-- Runs `tac`. -/
def tac (arguments : List String) (_ : List (String × String)) : Run Nat := do
  let call (path : String) : String := "failed to open " ++ quoted path ++ " for reading"
  let (text, status) ← allTextCalled "tac" call arguments.tail
  Run.print 1 (String.ofList (Text.terminated text.toList).reverse.flatten)
  return status

/-- Runs `nl`. -/
def nl (arguments : List String) (_ : List (String × String)) : Run Nat :=
  withGiven "nl" { plain := "p", valued := "bdfhilnsvw" } arguments fun given => do
  let (text, status) ← allText "nl" given.others
  let width := ((given.value? 'w').bind natural?).getD 6
  let separator := (given.value? 's').getD "\t"
  let mut number := ((given.value? 'v').bind natural?).getD 1
  for text in linesOf text do
    if text = "" && given.value? 'b' != some "a" then
      Run.print 1 (line (String.ofList (List.replicate (width + separator.length) ' ')))
    else
      Run.print 1 (line (padLeft width (toString number) ++ separator ++ text))
      number := number + 1
  return status

end Runbook.Utility
