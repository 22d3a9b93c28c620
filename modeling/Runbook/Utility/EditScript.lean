import Runbook.Shell.Name
import Runbook.Utility.Regex
/-!
# Scripts of editing commands

A script for `sed` is a list of commands. Each may have one address or two, which pick the lines
that it is meant for, and commands between braces are picked together. `readScript` reads a script
or tells what is wrong with it, and after how many characters.
-/

set_option autoImplicit false

namespace Runbook.Utility

/-! ### Commands -/

/-- What an address of an editing command picks. -/
inductive Address where
  | number (n : Nat)
  | final
  /-- A line in which an expression occurs; without an expression, the one that was used last. -/
  | fitting (regex : Option Regex) (sameLetters : Bool)
  /-- Every so many lines from one on. -/
  | steps (first step : Nat)
  /-- So many lines after the first one. -/
  | after (count : Nat)
  /-- The next line whose number is a multiple. -/
  | multiple (n : Nat)

/-- How letters are written in a replacement. -/
inductive LetterCase where
  | upper
  | lower
  | plain
deriving DecidableEq, Repr

/-- A part of a replacement. -/
inductive Replacing where
  | char (c : Char)
  | group (number : Nat)
  /-- From here on. -/
  | all (letterCase : LetterCase)
  /-- For one character. -/
  | next (letterCase : LetterCase)
deriving DecidableEq, Repr

/-- A substitution. -/
structure Substitution where
  regex : Option Regex
  replacement : List Replacing
  every : Bool
  print : Bool
  sameLetters : Bool
  /-- The first place that is replaced. -/
  nth : Nat

/-- What an editing command does. -/
inductive Edit where
  | substitute (substitution : Substitution)
  | exchange (pairs : List (Char × Char))
  | delete
  | deleteFirst
  | print
  | printFirst
  | quit (status : Nat)
  | quitSilently (status : Nat)
  | number
  | list
  | append (text : String)
  | insert (text : String)
  | change (text : String)
  | next
  | join
  | hold
  | holdMore
  | recall
  | recallMore
  | swap
  | clear
  | label (name : String)
  | branch (name : String)
  /-- Goes to a label if something has been replaced. -/
  | branchIfReplaced (name : String)
  /-- Goes to a label if nothing has been replaced. -/
  | branchUnlessReplaced (name : String)
  | openBlock
  | closeBlock

/-- An editing command: the lines for which it is meant, and what it does. -/
structure EditCommand where
  first : Option Address
  last : Option Address
  negated : Bool
  edit : Edit

/-! ### Faults -/

/-- What is wrong with a script. -/
inductive EditFault where
  | unknownCommand (c : Char)
  | missingCommand
  | extraCharacters
  | openSubstitution
  | openExchange
  | openAddress
  | unknownOption
  | repeatedPrint
  | repeatedEvery
  | repeatedNumber
  | zeroNumber
  | unequalExchange
  | unmatchedOpen
  | unmatchedClose
  | unexpectedComma
  | oneAddress
  | noAddress (sign : Char)
  | noText
  | relativeFirst
  | zeroAddress
  | badExpression
deriving DecidableEq, Repr

/-- A sign in the quotes of messages about scripts. -/
def signQuoted (text : String) : String := Char.toString '\x60' ++ text ++ "'"

/-- The wording of what is wrong with a script. -/
def EditFault.message : EditFault → String
  | unknownCommand c => "unknown command: " ++ signQuoted c.toString
  | missingCommand => "missing command"
  | extraCharacters => "extra characters after command"
  | openSubstitution => "unterminated " ++ signQuoted "s" ++ " command"
  | openExchange => "unterminated " ++ signQuoted "y" ++ " command"
  | openAddress => "unterminated address regex"
  | unknownOption => "unknown option to " ++ signQuoted "s"
  | repeatedPrint => "multiple " ++ signQuoted "p" ++ " options to " ++ signQuoted "s" ++ " command"
  | repeatedEvery => "multiple " ++ signQuoted "g" ++ " options to " ++ signQuoted "s" ++ " command"
  | repeatedNumber => "multiple number options to " ++ signQuoted "s" ++ " command"
  | zeroNumber => "number option to " ++ signQuoted "s" ++ " command may not be zero"
  | unequalExchange => "strings for " ++ signQuoted "y" ++ " command are different lengths"
  | unmatchedOpen => "unmatched " ++ signQuoted "\x7b"
  | unmatchedClose => "unexpected " ++ signQuoted "\x7d"
  | unexpectedComma => "unexpected " ++ signQuoted ","
  | oneAddress => "command only uses one address"
  | noAddress ':' => ": doesn't want any addresses"
  | noAddress _ => "comments don't accept any addresses"
  | noText => "expected \\ after " ++ signQuoted "a" ++ ", " ++ signQuoted "c" ++ " or " ++
      signQuoted "i"
  | relativeFirst => "invalid usage of +N or ~N as first address"
  | zeroAddress => "invalid usage of line address 0"
  | badExpression => "Invalid preceding regular expression"

/-- Something that is read of a script: what is left of it, and how much has been read. -/
abbrev ReadEdit (α : Type) := StateT (List Char × Nat) (Except (Nat × EditFault)) α

namespace ReadEdit

variable {α : Type}

/-- Stops at a fault. -/
def fail (fault : EditFault) : ReadEdit α := do throw ((← get).2, fault)

/-- The next character, which stays. -/
def look : ReadEdit (Option Char) := do return (← get).1.head?

/-- Leaves some characters behind. -/
def skip (count : Nat) : ReadEdit Unit :=
  modify fun (rest, position) => (rest.drop count, position + min count rest.length)

/-- Reads the next character. -/
def take : ReadEdit (Option Char) := do
  let next ← look
  skip 1
  return next

/-- Reads the characters that have a property. -/
def takeWhile (p : Char → Bool) : ReadEdit (List Char) := do
  let taken := (← get).1.takeWhile p
  skip taken.length
  return taken

end ReadEdit

open ReadEdit

/-! ### Parts of commands -/

/-- Reads text up to a delimiter, within a bound. A delimiter after a backslash stands for itself,
and a newline may be written as a letter. -/
def readUntil (delimiter : Char) (fault : EditFault) (regex : Bool) :
    Nat → List Char → ReadEdit (List Char)
  | 0, _ => fail fault
  | fuel + 1, done => do
    match ← take with
    | none => fail fault
    | some c =>
      if c = delimiter then return done.reverse
      else if c = '\\' then
        match ← take with
        | none => fail fault
        | some d =>
          if d = delimiter then readUntil delimiter fault regex fuel (d :: done)
          else if d = 'n' && regex then readUntil delimiter fault regex fuel ('\n' :: done)
          else readUntil delimiter fault regex fuel (d :: c :: done)
      else readUntil delimiter fault regex fuel (c :: done)

/-- Reads text up to a delimiter. -/
def readDelimited (delimiter : Char) (fault : EditFault) (regex : Bool) : ReadEdit (List Char) := do
  readUntil delimiter fault regex ((← get).1.length + 1) []

/-- The expression that a text is; none for no text. -/
def regexOf (extended : Bool) (text : List Char) : ReadEdit (Option Regex) :=
  if text.isEmpty then return none
  else
    match Regex.parse? extended (String.ofList text) with
    | some regex => return some regex
    | none => fail .badExpression

/-- Reads a number. -/
def readNumber : ReadEdit Nat := do
  return ((String.ofList (← takeWhile Char.isDigit)).toNat?).getD 0

/-- Reads the flag of an address that is an expression. -/
def readSameLetters : ReadEdit Bool := do
  if (← look) = some 'I' then
    skip 1
    return true
  else return false

/-- Reads an address, if one stands here. -/
def readAddress? (extended : Bool) : ReadEdit (Option Address) := do
  match ← look with
  | some '$' => do
    skip 1
    return some .final
  | some '/' => do
    skip 1
    let regex ← regexOf extended (← readDelimited '/' .openAddress true)
    return some (.fitting regex (← readSameLetters))
  | some '\\' => do
    skip 1
    match ← take with
    | none => fail .openAddress
    | some c =>
      let regex ← regexOf extended (← readDelimited c .openAddress true)
      return some (.fitting regex (← readSameLetters))
  | some '+' => do
    skip 1
    return some (.after (← readNumber))
  | some '~' => do
    skip 1
    return some (.multiple (← readNumber))
  | some c =>
    if c.isDigit then do
      let n ← readNumber
      if (← look) = some '~' then
        skip 1
        return some (.steps n (← readNumber))
      else return some (.number n)
    else return none
  | none => return none

/-- The parts of a replacement. -/
def replacingOf : List Char → List Replacing
  | [] => []
  | '\\' :: c :: rest =>
    let part : Replacing :=
      if c.isDigit then .group (c.toNat - '0'.toNat)
      else
        match c with
        | 'n' => .char '\n'
        | 't' => .char '\t'
        | 'U' => .all .upper
        | 'L' => .all .lower
        | 'E' => .all .plain
        | 'u' => .next .upper
        | 'l' => .next .lower
        | c => .char c
    part :: replacingOf rest
  | '&' :: rest => .group 0 :: replacingOf rest
  | c :: rest => .char c :: replacingOf rest

/-- Reads the flags of a substitution, within a bound on their number. -/
def readFlags : Nat → Substitution → ReadEdit Substitution
  | 0, substitution => return substitution
  | fuel + 1, substitution => do
    match ← look with
    | none => return substitution
    | some c =>
      if c ∈ ['\n', ';', '\x7d', '#', ' ', '\t'] then return substitution
      else if c.isDigit && c != '0' then do
        let n ← readNumber
        if substitution.nth != 0 then fail .repeatedNumber
        else readFlags fuel { substitution with nth := n }
      else do
        skip 1
        match c with
        | 'g' =>
          if substitution.every then fail .repeatedEvery
          else readFlags fuel { substitution with every := true }
        | 'p' =>
          if substitution.print then fail .repeatedPrint
          else readFlags fuel { substitution with print := true }
        | 'i' => readFlags fuel { substitution with sameLetters := true }
        | 'I' => readFlags fuel { substitution with sameLetters := true }
        | '0' => fail .zeroNumber
        | _ => fail .unknownOption

/-- The characters of an exchange, with those after backslashes resolved. -/
def exchanged : List Char → List Char
  | '\\' :: c :: rest =>
    (match c with
      | 'n' => ['\n']
      | 't' => ['\t']
      | '\\' => ['\\']
      | c => ['\\', c]) ++ exchanged rest
  | c :: rest => c :: exchanged rest
  | [] => []

/-- Reads text up to the end of a line, within a bound. A backslash takes what follows it as it is,
an end of a line too. -/
def readTextLine : Nat → List Char → ReadEdit (List Char)
  | 0, done => return done.reverse
  | fuel + 1, done => do
    match ← take with
    | none => return done.reverse
    | some '\n' => return done.reverse
    | some '\\' => do
      match ← take with
      | none => return done.reverse
      | some c => readTextLine fuel (c :: done)
    | some c => readTextLine fuel (c :: done)

/-- Reads the text that a command puts in. -/
def readText : ReadEdit String := do
  let _ ← takeWhile Shell.isBlank
  match ← look with
  | none => fail .noText
  | some c =>
    if c = '\\' then
      skip 1
      let (rest, _) ← get
      let blanks := (rest.takeWhile Shell.isBlank).length
      if rest[blanks]? = some '\n' then skip (blanks + 1)
    return String.ofList (← readTextLine ((← get).1.length + 1) [])

/-- Reads a name up to the end of a command. -/
def readLabel : ReadEdit String := do
  let _ ← takeWhile Shell.isBlank
  return String.ofList (← takeWhile fun c => c ∉ ['\n', ';', ' ', '\t', '\x7d'])

/-- Reads the end of a command. -/
def readEnd : ReadEdit Unit := do
  let _ ← takeWhile Shell.isBlank
  match ← look with
  | none => return
  | some c =>
    if c = '\x7d' || c = '#' then return
    else
      skip 1
      if c != '\n' && c != ';' then fail .extraCharacters

/-! ### Commands -/

/-- Reads what an editing command does, after its letter. -/
def readEdit (extended : Bool) (command : Char) : ReadEdit Edit := do
  let plain (edit : Edit) : ReadEdit Edit := do
    readEnd
    return edit
  match command with
  | 's' => do
    match ← take with
    | none => fail .openSubstitution
    | some delimiter =>
      let pattern ← readDelimited delimiter .openSubstitution true
      let replacement ← readDelimited delimiter .openSubstitution false
      let start : Substitution :=
        ⟨← regexOf extended pattern, replacingOf replacement, false, false, false, 0⟩
      let substitution ← readFlags ((← get).1.length + 1) start
      plain (.substitute substitution)
  | 'y' => do
    match ← take with
    | none => fail .openExchange
    | some delimiter =>
      let source := exchanged (← readDelimited delimiter .openExchange false)
      let target := exchanged (← readDelimited delimiter .openExchange false)
      if source.length != target.length then fail .unequalExchange
      else plain (.exchange (source.zip target))
  | 'a' => return .append (← readText)
  | 'i' => return .insert (← readText)
  | 'c' => return .change (← readText)
  | ':' => return .label (← readLabel)
  | 'b' => plain (.branch (← readLabel))
  | 't' => plain (.branchIfReplaced (← readLabel))
  | 'T' => plain (.branchUnlessReplaced (← readLabel))
  | 'q' => do
    let _ ← takeWhile Shell.isBlank
    plain (.quit (← readNumber))
  | 'Q' => do
    let _ ← takeWhile Shell.isBlank
    plain (.quitSilently (← readNumber))
  | 'd' => plain .delete
  | 'D' => plain .deleteFirst
  | 'p' => plain .print
  | 'P' => plain .printFirst
  | '=' => plain .number
  | 'l' => plain .list
  | 'n' => plain .next
  | 'N' => plain .join
  | 'h' => plain .hold
  | 'H' => plain .holdMore
  | 'g' => plain .recall
  | 'G' => plain .recallMore
  | 'x' => plain .swap
  | 'z' => plain .clear
  | c => fail (.unknownCommand c)

/-- Reads the addresses of a command. -/
def readAddresses (extended : Bool) : ReadEdit (Option Address × Option Address) := do
  match ← readAddress? extended with
  | none => return (none, none)
  | some first =>
    match first with
    | .after _ => fail .relativeFirst
    | .multiple _ => fail .relativeFirst
    | _ => pure ()
    let _ ← takeWhile Shell.isBlank
    if (← look) = some ',' then
      skip 1
      let _ ← takeWhile Shell.isBlank
      match ← readAddress? extended with
      | some last => return (some first, some last)
      | none => fail .unexpectedComma
    else return (some first, none)

/-- Whether two addresses may stand before a command. -/
def allowsRange (command : Char) : Bool := command ∉ ['q', 'Q']

/-- Whether an address is the line before the first one without an expression for the last one. -/
def isBadZero : Option Address → Option Address → Bool
  | some (.number 0), some (.fitting _ _) => false
  | some (.number 0), _ => true
  | _, _ => false

/-- Reads editing commands, within a bound on their number; `depth` is how many braces are open. -/
def readCommands (extended : Bool) : Nat → Nat → List EditCommand → ReadEdit (List EditCommand)
  | 0, _, done => return done.reverse
  | fuel + 1, depth, done => do
    let _ ← takeWhile fun c => Shell.isSpace c || c = ';'
    if (← look).isNone then
      if depth = 0 then return done.reverse else throw (0, .unmatchedOpen)
    else
      let (first, last) ← readAddresses extended
      if isBadZero first last then
        skip 1
        fail .zeroAddress
      let _ ← takeWhile Shell.isBlank
      let negated := (← look) = some '!'
      if negated then
        let _ ← takeWhile fun c => c = '!' || Shell.isBlank c
      let build (edit : Edit) : EditCommand := ⟨first, last, negated, edit⟩
      match ← take with
      | none => fail .missingCommand
      | some '#' => do
        if first.isSome then fail (.noAddress '#')
        let _ ← takeWhile (· != '\n')
        readCommands extended fuel depth done
      | some '\x7b' => readCommands extended fuel (depth + 1) (build .openBlock :: done)
      | some '\x7d' => do
        if depth = 0 then fail .unmatchedClose
        readEnd
        readCommands extended fuel (depth - 1) (build .closeBlock :: done)
      | some command => do
        if command = ':' && first.isSome then fail (.noAddress ':')
        if last.isSome && !allowsRange command then fail .oneAddress
        let edit ← readEdit extended command
        readCommands extended fuel depth (build edit :: done)

/-- Reads a script, or tells what is wrong and after how many characters. -/
def readScript (extended : Bool) (text : String) : Except (Nat × EditFault) (List EditCommand) :=
  ((readCommands extended (text.length + 1) 0 []).run (text.toList, 0)).map Prod.fst

end Runbook.Utility
