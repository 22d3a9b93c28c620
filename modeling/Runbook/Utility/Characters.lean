import Runbook.Utility.Stream
/-!
# Changing characters

`tr` puts characters in the place of others, drops them, or leaves one of several that repeat.
-/

set_option autoImplicit false

namespace Runbook.Utility

open Sandbox

/-! ### Characters -/

/-- The characters that stand for others after a backslash in a set. -/
def setEscape (text : List Char) : Char × Nat :=
  let (c, taken) := Shell.Printing.escape text
  if taken = 0 then (text.headD '\\', min 1 text.length) else (c, taken)

/-- The characters of a set, within a bound. -/
def setFrom : Nat → List Char → List Char
  | 0, _ => []
  | _ + 1, [] => []
  | fuel + 1, '[' :: ':' :: rest =>
    let name := String.ofList (rest.takeWhile (· != ':'))
    let members := (List.range 256).map Char.ofNat |>.filter (Shell.Pattern.inKind name)
    if members.isEmpty then '[' :: setFrom fuel (':' :: rest)
    else members ++ setFrom fuel (rest.drop (name.length + 2))
  | fuel + 1, c :: rest =>
    let (first, rest) :=
      if c = '\\' then
        let (d, taken) := setEscape rest
        (d, rest.drop taken)
      else (c, rest)
    match rest with
    | '-' :: last :: more =>
      let (last, more) :=
        if last = '\\' then
          let (d, taken) := setEscape more
          (d, more.drop taken)
        else (last, more)
      (List.range (last.toNat + 1 - first.toNat)).map (fun i => Char.ofNat (first.toNat + i)) ++
        setFrom fuel more
    | _ => first :: setFrom fuel rest

/-- The characters of a set. -/
def setOf (text : String) : List Char := setFrom text.length text.toList

/-- Drops characters of a set that repeat the one before them. -/
def squeeze (set : List Char) : Option Char → List Char → Option Char × List Char
  | last, [] => (last, [])
  | last, c :: rest =>
    let (final, text) := squeeze set (some c) rest
    if last = some c && c ∈ set then (final, text) else (final, c :: text)

/-- Runs `tr`. -/
def tr (arguments : List String) (_ : List (String × String)) : Run Nat :=
  withGiven "tr" { plain := "cCdst", stopsEarly := true, long := [("delete", 'd'),
      ("squeeze-repeats", 's'), ("complement", 'c')] } arguments fun given => do
  match given.others with
  | [] =>
    complainOfUse "tr" "missing operand"
    return 1
  | first :: more =>
    let source := setOf first
    let complement := given.has 'c' || given.has 'C'
    let source := if complement then
        (List.range 256).map Char.ofNat |>.filter (· ∉ source) else source
    let target := setOf (more.headD "")
    if more.isEmpty && !given.has 'd' && !given.has 's' then
      complainOfUse "tr" ("missing operand after " ++ quoted first ++
        "\nTwo strings must be given when translating.")
      return 1
    else
      let last := target.getLast?.getD ' '
      let replace (c : Char) : Char :=
        match source.findIdx? (· = c) with
        | some i => if complement then last else target.getD i last
        | none => c
      let squeezed := if more.isEmpty then source else target
      passOn 0 (fun (state : Option Char) bytes =>
        let text := ByteText.chars bytes
        let text := if given.has 'd' then text.filter (· ∉ source)
          else if more.isEmpty then text else text.map replace
        let (state, text) := if given.has 's' then squeeze squeezed state text else (state, text)
        (state, ByteText.bytesOfChars text)) Run.maxRounds none

end Runbook.Utility
