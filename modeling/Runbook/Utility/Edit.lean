import Runbook.Utility.EditScript
import Runbook.Utility.Stream
/-!
# Editing lines

`sed` takes the lines of its input one after the other, does to each what the commands of a script
say, and prints it. A line can be kept aside and taken back, and a script can go to another place
in itself. What is printed keeps the end of the input: a last line without a newline stays one.
-/

set_option autoImplicit false

namespace Runbook.Utility

open Sandbox

/-! ### State -/

/-- A line, and whether a newline ends it even when nothing follows. -/
structure Output where
  text : String
  ended : Bool
deriving DecidableEq, Repr

/-- A text put on a line of its own after another one. -/
def Output.after (output before : Output) : Output :=
  { output with text := before.text ++ "\n" ++ output.text }

/-- What is known while lines are edited. -/
structure Editing where
  /-- The text that is edited, and whether a newline ends it. -/
  space : Output
  /-- The text that is kept aside. -/
  held : Output
  number : Nat
  rest : List String
  /-- Whether a newline ends the last line of the input. -/
  complete : Bool
  /-- What has been printed, in reverse. -/
  printed : List Output
  /-- What is printed after the line, in reverse. -/
  queued : List String
  /-- For the places of commands in the script, the last line of the range that is open, if its
  number is known. -/
  ranges : List (Nat × Option Nat)
  /-- Whether something has been replaced. -/
  replaced : Bool
  /-- The expression that was used last. -/
  lastRegex : Option Regex

namespace Editing

/-- Whether the line is the last one. -/
def isFinal (editing : Editing) : Bool := editing.rest.isEmpty

/-- Prints a text with a newline. -/
def tell (editing : Editing) (text : String) : Editing :=
  { editing with printed := ⟨text, true⟩ :: editing.printed }

/-- Prints the text that is edited. -/
def tellSpace (editing : Editing) : Editing :=
  { editing with printed := editing.space :: editing.printed }

/-- The text that is edited, changed. -/
def withText (editing : Editing) (text : String) : Editing :=
  { editing with space := { editing.space with text } }

/-- Takes the next line, put after a text. -/
def take (editing : Editing) (start next : String) (rest : List String) : Editing :=
  { editing with
    space := ⟨start ++ next, editing.complete || !rest.isEmpty⟩
    rest
    number := editing.number + 1 }

/-- Prints what has been kept for after the line. -/
def flush (editing : Editing) : Editing :=
  let editing := editing.queued.reverse.foldl tell editing
  { editing with queued := [] }

/-- Ends a line: prints it unless nothing is to be printed by itself. -/
def endLine (editing : Editing) (quiet : Bool) : Editing :=
  (if quiet then editing else editing.tellSpace).flush

/-- The text up to the first newline, and what follows that if there is one. -/
def splitFirst (text : String) : String × Option String :=
  let first := text.toList.takeWhile (· != '\n')
  (String.ofList first,
    if first.length < text.length then some (String.ofList (text.toList.drop (first.length + 1)))
    else none)

/-- An expression, or the one that was used last. -/
def known (editing : Editing) (regex : Option Regex) : Option Regex :=
  regex.orElse fun () => editing.lastRegex

end Editing

/-! ### Addresses -/

/-- Whether an address picks the line. -/
def picks (editing : Editing) : Address → Bool
  | .number n => editing.number = n
  | .final => editing.isFinal
  | .fitting regex same =>
    (editing.known regex).any fun regex => regex.occursIn same editing.space.text.toList
  | .steps first step =>
    if step = 0 then editing.number = first
    else first ≤ editing.number && (editing.number - first) % step = 0
  | .after _ => false
  | .multiple _ => false

/-- The expression that an address uses. -/
def usedBy : Option Address → Option Regex
  | some (.fitting regex _) => regex
  | _ => none

/-- The number of the last line of a range that starts at a line; none if only the text of a line
tells. -/
def rangeEnd? (start : Nat) : Address → Option Nat
  | .number n => some n
  | .after count => some (start + count)
  | .multiple n => some (if n = 0 then start else (start + n - 1) / n * n)
  | _ => none

/-- Whether a command at a place is meant for the line, and the ranges after it. -/
def isMeant (command : EditCommand) (place : Nat) (editing : Editing) :
    Bool × List (Nat × Option Nat) :=
  let others := editing.ranges.filter fun entry => entry.1 != place
  match command.first, command.last with
  | none, _ => (true, others)
  | some first, none => (picks editing first, others)
  | some first, some last =>
    let fromStart : Bool := match first with
      | .number 0 => editing.number = 1
      | _ => false
    let opened := if fromStart then some none else editing.ranges.lookup place
    match opened with
    | some (some final) =>
      if editing.number < final then (true, (place, some final) :: others)
      else if editing.number = final then (true, others)
      else (picks editing first, others)
    | some none => (true, if picks editing last then others else (place, none) :: others)
    | none =>
      if !picks editing first then (false, others)
      else
        match rangeEnd? editing.number last with
        | some final =>
          (true, if editing.number < final then (place, some final) :: others else others)
        | none =>
          let ended : Bool := match last with
            | .final => editing.isFinal
            | _ => false
          (true, if ended then others else (place, none) :: others)

/-! ### Substitution -/

/-- A character in a case. -/
def inCase (letterCase : LetterCase) (c : Char) : Char :=
  match letterCase with
  | .upper => c.toUpper
  | .lower => c.toLower
  | .plain => c

/-- Characters in a case, the first one perhaps in another. -/
def withCase (letterCase : LetterCase) : Option LetterCase → List Char → List Char
  | some first, c :: rest => inCase first c :: rest.map (inCase letterCase)
  | _, text => text.map (inCase letterCase)

/-- A replacement for what has been fitted, after the case of letters and that of the next one. -/
def filledIn (whole : List Char) (groups : List (Nat × List Char)) (letterCase : LetterCase)
    (next : Option LetterCase) : List Replacing → List Char
  | [] => []
  | .all other :: rest => filledIn whole groups other none rest
  | .next other :: rest => filledIn whole groups letterCase (some other) rest
  | .char c :: rest =>
    withCase letterCase next [c] ++ filledIn whole groups letterCase none rest
  | .group number :: rest =>
    let text := if number = 0 then whole else (groups.lookup number).getD []
    withCase letterCase next text ++
      filledIn whole groups letterCase (if text.isEmpty then next else none) rest

/-- A text with places replaced, within a bound, or none if there is none. `place` is the number of
the next one, and `before` is the character before the text. -/
def substituted (regex : Regex) (substitution : Substitution) :
    Nat → Option Char → Nat → List Char → Option (List Char)
  | 0, _, _, _ => none
  | fuel + 1, before, place, text =>
    match regex.search? substitution.sameLetters before text with
    | none => none
    | some (passed, fit) =>
      let whole := (text.drop passed.length).take fit.length
      let nth := max substitution.nth 1
      let wanted := place = nth || (substitution.every && nth ≤ place)
      let put := if wanted then filledIn whole fit.groups .plain none substitution.replacement
        else whole
      let goesOn := substitution.every || !wanted
      let after := if fit.length = 0 then fit.advance 1 else fit
      let kept := fit.rest.take (after.length - fit.length)
      let more := if goesOn && !(fit.length = 0 && fit.rest.isEmpty) then
          substituted regex substitution fuel after.before (place + 1) after.rest
        else none
      match more with
      | some tail => some (passed ++ put ++ kept ++ tail)
      | none => if wanted then some (passed ++ put ++ kept ++ after.rest) else none

/-- Replaces places of the line. -/
def substitute (substitution : Substitution) (editing : Editing) : Editing :=
  match editing.known substitution.regex with
  | none => editing
  | some regex =>
    let editing := { editing with lastRegex := some regex }
    let source := editing.space.text.toList
    match substituted regex substitution (source.length + 2) none 1 source with
    | none => editing
    | some text =>
      let editing := { editing.withText (String.ofList text) with replaced := true }
      if substitution.print then editing.tellSpace else editing

/-! ### Commands -/

/-- How the line goes on after a command. -/
inductive Flow where
  | next
  | goto (place : Nat)
  /-- The line is left, and the next one comes. -/
  | leave
  /-- The script starts again with what is left of the line. -/
  | restart
  /-- Editing ends with a status. -/
  | quit (status : Nat)
deriving DecidableEq, Repr

/-- A line as it is written out in signs that can be seen. -/
def visible (text : String) : String :=
  let sign (c : Char) : String :=
    match c with
    | '\\' => "\\\\"
    | '\n' => "\\n"
    | '\t' => "\\t"
    | '\r' => "\\r"
    | '\x07' => "\\a"
    | '\x08' => "\\b"
    | '\x0b' => "\\v"
    | '\x0c' => "\\f"
    | c =>
      if ' ' ≤ c && c ≤ '~' then c.toString
      else
        let digits := Nat.toDigits 8 c.toNat
        "\\" ++ String.ofList (List.replicate (3 - digits.length) '0' ++ digits)
  String.join (text.toList.map sign) ++ "$"

/-- The place of a label in a script; the end for no name. -/
def placeOfLabel? (commands : List EditCommand) (name : String) : Option Nat :=
  if name = "" then some commands.length
  else
    commands.findIdx? fun command =>
      match command.edit with
      | .label other => other = name
      | _ => false

/-- The place after the block that starts before some commands, at a place. -/
def blockEnd : List EditCommand → Nat → Nat → Nat
  | [], place, _ => place
  | command :: rest, place, depth =>
    match command.edit with
    | .openBlock => blockEnd rest (place + 1) (depth + 1)
    | .closeBlock => if depth = 0 then place + 1 else blockEnd rest (place + 1) (depth - 1)
    | _ => blockEnd rest (place + 1) depth

/-- Does what a command says. -/
def perform (commands : List EditCommand) (quiet inRange : Bool) (editing : Editing) :
    Edit → Editing × Flow
  | .substitute substitution => (substitute substitution editing, .next)
  | .exchange pairs =>
    let text := editing.space.text.toList.map fun c => (pairs.lookup c).getD c
    (editing.withText (String.ofList text), .next)
  | .delete => (editing, .leave)
  | .deleteFirst =>
    match Editing.splitFirst editing.space.text with
    | (_, none) => (editing, .leave)
    | (_, some rest) => (editing.withText rest, .restart)
  | .print => (editing.tellSpace, .next)
  | .printFirst => (editing.tell (Editing.splitFirst editing.space.text).1, .next)
  | .quit status => (editing.endLine quiet, .quit status)
  | .quitSilently status => (editing, .quit status)
  | .number => (editing.tell (toString editing.number), .next)
  | .list => (editing.tell (visible editing.space.text), .next)
  | .append text => ({ editing with queued := text :: editing.queued }, .next)
  | .insert text => (editing.tell text, .next)
  | .change text => (if inRange then editing else editing.tell text, .leave)
  | .next =>
    match editing.rest with
    | [] => (editing.endLine quiet, .quit 0)
    | next :: rest => ((editing.endLine quiet).take "" next rest, .next)
  | .join =>
    match editing.rest with
    | [] => (editing.endLine quiet, .quit 0)
    | next :: rest => (editing.flush.take (editing.space.text ++ "\n") next rest, .next)
  | .hold => ({ editing with held := editing.space }, .next)
  | .holdMore => ({ editing with held := editing.space.after editing.held }, .next)
  | .recall => ({ editing with space := editing.held }, .next)
  | .recallMore => ({ editing with space := editing.held.after editing.space }, .next)
  | .swap => ({ editing with space := editing.held, held := editing.space }, .next)
  | .clear => (editing.withText "", .next)
  | .label _ => (editing, .next)
  | .branch name => (editing, .goto ((placeOfLabel? commands name).getD commands.length))
  | .branchIfReplaced name =>
    ({ editing with replaced := false },
      if editing.replaced then .goto ((placeOfLabel? commands name).getD commands.length)
        else .next)
  | .branchUnlessReplaced name =>
    ({ editing with replaced := false },
      if editing.replaced then .next
        else .goto ((placeOfLabel? commands name).getD commands.length))
  | .openBlock => (editing, .next)
  | .closeBlock => (editing, .next)

/-- Does what the commands from a place on say with the line, within a bound. -/
def runCommands (commands : Array EditCommand) (quiet : Bool) :
    Nat → Nat → Editing → Editing × Flow
  | 0, _, editing => (editing, .quit 0)
  | fuel + 1, place, editing =>
    match commands[place]? with
    | none => (editing, .next)
    | some command =>
      let (meant, ranges) := isMeant command place editing
      let used := (usedBy command.first).orElse fun () => editing.lastRegex
      let editing := { editing with ranges, lastRegex := used }
      if meant = command.negated then
        match command.edit with
        | .openBlock =>
          let after := blockEnd (commands.toList.drop (place + 1)) (place + 1) 0
          runCommands commands quiet fuel after editing
        | _ => runCommands commands quiet fuel (place + 1) editing
      else
        let inRange := !command.negated && (ranges.lookup place).isSome
        match perform commands.toList quiet inRange editing command.edit with
        | (editing, .next) => runCommands commands quiet fuel (place + 1) editing
        | (editing, .goto place) => runCommands commands quiet fuel place editing
        | (editing, flow) => (editing, flow)

/-- Edits lines from one on, within a bound: what is printed, in reverse, and the status. -/
def editLines (commands : Array EditCommand) (quiet : Bool) : Nat → Editing → List Output × Nat
  | 0, editing => (editing.printed, 0)
  | fuel + 1, editing =>
    let (editing, flow) := runCommands commands quiet Run.maxRounds 0
        { editing with replaced := false }
    let further (editing : Editing) : List Output × Nat :=
      match editing.rest with
      | [] => (editing.printed, 0)
      | next :: rest =>
        editLines commands quiet fuel (editing.take "" next rest)
    match flow with
    | .quit status => (editing.printed, status)
    | .restart => editLines commands quiet fuel editing.flush
    | .leave => further editing.flush
    | _ => further (editing.endLine quiet)

/-- The text of what has been printed, which is given in reverse. -/
def printedText (printed : List Output) : String :=
  match printed with
  | [] => ""
  | last :: before =>
    String.join ((before.reverse.map fun output => line output.text) ++
      [if last.ended then line last.text else last.text])

/-- An edited text, and the status. -/
def edited (quiet : Bool) (commands : List EditCommand) (text : String) : String × Nat :=
  match linesOf text with
  | [] => ("", 0)
  | first :: rest =>
    let complete : Bool := text.toList.getLast? = some '\n'
    let (printed, status) := editLines commands.toArray quiet Run.maxRounds
      ⟨⟨first, complete || !rest.isEmpty⟩, ⟨"", true⟩, 1, rest, complete, [], [], [], false, none⟩
    (printedText printed, status)

/-! ### The utility -/

/-- The options of `sed`. -/
def sedOptions : OptionTable where
  plain := "bsnrzuE"
  valued := "efl"
  attached := "i"
  long := [("quiet", 'n'), ("silent", 'n'), ("expression", 'e'), ("regexp-extended", 'E'),
    ("in-place", 'i'), ("separate", 's')]

/-- How `sed` is used. -/
def sedUse : String :=
  "Usage: sed [OPTION]... \x7bscript-only-if-no-other-script\x7d [input-file]...\n"

/-- Texts one after the other, each of them ending a line but for the last one. -/
def joinTexts : List String → String
  | [] => ""
  | [last] => last
  | first :: rest =>
    let following := joinTexts rest
    if first = "" || following = "" || first.toList.getLast? = some '\n' then first ++ following
    else first ++ "\n" ++ following

/-- What a file holds, or a message. -/
def editable? (path : String) : Run (Option String) := do
  match ← contentOf path with
  | .ok bytes => return some (ByteText.ofBytes bytes)
  | .error code => do
    if code = Errno.isDirectory then complain "sed" ("couldn't edit " ++ path ++
        ": not a regular file")
    else complain "sed" ("can't read " ++ path ++ ": " ++ Errno.text code)
    return none

/-- Edits files in place: the status. -/
def editInPlace (quiet : Bool) (commands : List EditCommand) (backup : String) :
    List String → Nat → Run Nat
  | [], status => return status
  | path :: rest, status => do
    match ← editable? path with
    | none => editInPlace quiet commands backup rest 2
    | some text => do
      if backup != "" then
        let _ ← Run.call (.change (.rename path (path ++ backup)))
      match ← Run.call (.openFile path ⟨true, false, true, true⟩ false) with
      | .ok descriptor => do
        Run.print descriptor (edited quiet commands text).1
        Run.call (.close descriptor)
        editInPlace quiet commands backup rest status
      | .error _ => editInPlace quiet commands backup rest 4

/-- Edits files or the input as one text: the status. -/
def editFiles (quiet : Bool) (commands : List EditCommand) (paths : List String) : Run Nat := do
  let mut texts : List String := []
  let mut failure := 0
  for path in if paths.isEmpty then ["-"] else paths do
    match ← editable? path with
    | some text => texts := text :: texts
    | none => failure := 2
  let (text, status) := edited quiet commands (joinTexts texts.reverse)
  Run.print 1 text
  return if status = 0 then failure else status

/-- The first name in a script that no label has. -/
def missingLabel? (commands : List EditCommand) : Option String :=
  commands.findSome? fun command =>
    let name? := match command.edit with
      | .branch name => some name
      | .branchIfReplaced name => some name
      | .branchUnlessReplaced name => some name
      | _ => none
    name?.filter fun name => (placeOfLabel? commands name).isNone

/-- Runs `sed`. -/
def sed (arguments : List String) (_ : List (String × String)) : Run Nat := do
  match sedOptions.read arguments.tail with
  | .error fault => do
    complain "sed" fault.message
    Run.print 2 sedUse
    return 1
  | .ok given =>
    let (scripts, paths) := match given.values 'e', given.others with
      | [], script :: paths => ([script], paths)
      | [], [] => ([], [])
      | scripts, paths => (scripts, paths)
    if scripts.isEmpty then
      Run.print 2 sedUse
      return 1
    else
      match readScript (given.has 'E' || given.has 'r') ("\n".intercalate scripts) with
      | .error (place, fault) => do
        complain "sed" ("-e expression #1, char " ++ toString place ++ ": " ++ fault.message)
        return 1
      | .ok commands =>
        let quiet := given.has 'n' || (scripts.headD "").startsWith "#n\n"
        match missingLabel? commands with
        | some name => do
          complain "sed" ("can't find label for jump to " ++ signQuoted name)
          return 4
        | none =>
          match given.value? 'i' with
          | some backup => editInPlace quiet commands backup paths 0
          | none => editFiles quiet commands paths

end Runbook.Utility
