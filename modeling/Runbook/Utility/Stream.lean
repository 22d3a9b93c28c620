import Runbook.Utility.Basic
/-!
# Utilities that pass text on

What is read is passed on as it comes where that can be done, so a source without end can be cut.
-/

set_option autoImplicit false

namespace Runbook.Utility

open Sandbox

/-! ### Passing on -/

/-- Passes on all that can be read, within a bound; what is passed on may be changed, by a state. -/
def passOn {σ : Type} (source : Descriptor) (change : σ → Bytes → σ × Bytes) : Nat → σ → Run Nat
  | 0, _ => return 0
  | fuel + 1, state => do
    match ← Run.call (.read source Run.chunk) with
    | .ok [] => return 0
    | .ok bytes =>
      let (state, changed) := change state bytes
      match ← Run.write 1 changed with
      | .ok () => passOn source change fuel state
      | .error _ => return 1
    | .error _ => return 1

/-- Passes on all that can be read as it is. -/
def passAll (source : Descriptor) : Run Nat :=
  passOn source (fun (_ : Unit) bytes => ((), bytes)) Run.maxRounds ()

/-- Passes on at most some bytes, within a bound. -/
def passBytes (source : Descriptor) : Nat → Nat → Run Unit
  | 0, _ => return
  | _ + 1, 0 => return
  | fuel + 1, count => do
    match ← Run.call (.read source (min count Run.chunk)) with
    | .ok [] => return
    | .ok bytes =>
      match ← Run.write 1 bytes with
      | .ok () => passBytes source fuel (count - bytes.length)
      | .error _ => return
    | .error _ => return

/-- The start of some bytes that holds at most some lines, and how many it holds. -/
def takeLines : Nat → Bytes → Bytes × Nat
  | 0, _ => ([], 0)
  | _ + 1, [] => ([], 0)
  | count + 1, byte :: bytes =>
    if byte = 10 then
      let (taken, lines) := takeLines count bytes
      (byte :: taken, lines + 1)
    else
      let (taken, lines) := takeLines (count + 1) bytes
      (byte :: taken, lines)

/-- Passes on at most some lines, within a bound. -/
def passLines (source : Descriptor) : Nat → Nat → Run Unit
  | 0, _ => return
  | _ + 1, 0 => return
  | fuel + 1, count => do
    match ← Run.call (.read source 4096) with
    | .ok [] => return
    | .ok bytes =>
      let (taken, lines) := takeLines count bytes
      match ← Run.write 1 taken with
      | .ok () => passLines source fuel (count - lines)
      | .error _ => return
    | .error _ => return

/-- Opens a file that is named by an argument; a hyphen names the input. -/
def openArgument (path : String) : Run (Except Errno Descriptor) :=
  if path = "-" then return .ok 0 else Run.openToRead path

/-! ### Whole files -/

/-- A character in signs that can be seen, where tabs and ends of lines stay as they are. -/
def shownChar (c : Char) : String :=
  let low (n : Nat) : String :=
    if n < 32 then "^" ++ Char.toString (Char.ofNat (n + 64))
    else if n = 127 then "^?"
    else Char.toString (Char.ofNat n)
  if c = '\t' then "\t" else if c.toNat < 128 then low c.toNat else "M-" ++ low (c.toNat - 128)

/-- How `cat` changes lines. -/
structure LineStyle where
  number : Bool
  /-- Only lines that hold something are numbered. -/
  numberFilled : Bool
  /-- Of empty lines that follow each other, one is left. -/
  squeeze : Bool
  showEnds : Bool
  showTabs : Bool
  showSigns : Bool
deriving DecidableEq, Repr

namespace LineStyle

/-- The style that options ask for. -/
def ofGiven (given : Given) : LineStyle where
  number := given.has 'n'
  numberFilled := given.has 'b'
  squeeze := given.has 's'
  showEnds := given.has 'E' || given.has 'A' || given.has 'e'
  showTabs := given.has 'T' || given.has 'A' || given.has 't'
  showSigns := given.has 'v' || given.has 'A' || given.has 'e' || given.has 't'

/-- Whether lines stay as they are. -/
def isPlain (style : LineStyle) : Bool :=
  !(style.number || style.numberFilled || style.squeeze || style.showEnds || style.showTabs ||
    style.showSigns)

/-- A line in a style, with its end. -/
def text (style : LineStyle) (number : Nat) (content : List Char) : String :=
  let isEnded := content.getLast? = some '\n'
  let body := if isEnded then content.dropLast else content
  let signs := body.map fun c =>
    if c = '\t' && style.showTabs then "^I"
    else if style.showSigns then shownChar c
    else c.toString
  let digits := toString number
  let start := if style.numberFilled && body.isEmpty && isEnded then ""
    else if style.number || style.numberFilled then
      String.ofList (List.replicate (6 - digits.length) ' ') ++ digits ++ "\t"
    else ""
  start ++ String.join signs ++ (if isEnded then (if style.showEnds then "$\n" else "\n") else "")

/-- Lines in a style, from a number on, after a line that was empty or not. -/
def render (style : LineStyle) : Nat → Bool → List (List Char) → List String
  | _, _, [] => []
  | number, afterEmpty, content :: rest =>
    let isEmpty := content = ['\n']
    if style.squeeze && isEmpty && afterEmpty then style.render number true rest
    else
      let isCounted := !(style.numberFilled && isEmpty)
      style.text number content :: style.render (if isCounted then number + 1 else number)
          isEmpty rest

end LineStyle

/-- What is read at a descriptor, or a message under a name. -/
def passOrComplain (path : String) (source : Descriptor) : Run Nat := do
  match ← Run.call (.read source 0) with
  | .error code => do
    complain "cat" (path ++ ": " ++ Errno.text code)
    return 1
  | .ok _ => passAll source

/-- The options of `cat`. -/
def catOptions : OptionTable where
  plain := "AbeEnstTuv"
  long := [("show-all", 'A'), ("number-nonblank", 'b'), ("show-ends", 'E'), ("number", 'n'),
    ("squeeze-blank", 's'), ("show-tabs", 'T'), ("show-nonprinting", 'v')]

/-- Runs `cat`. -/
def cat (arguments : List String) (_ : List (String × String)) : Run Nat :=
  withGiven "cat" catOptions arguments fun given => do
    let style := LineStyle.ofGiven given
    let mut status := 0
    if !style.isPlain then
      let (text, failed) ← allText "cat" given.others
      for text in style.render 1 false (Text.terminated text.toList) do
        Run.print 1 text
      return failed
    else
      for path in if given.others.isEmpty then ["-"] else given.others do
        match ← openArgument path with
        | .error code =>
          complain "cat" (path ++ ": " ++ Errno.text code)
          status := 1
        | .ok source =>
          if ← if path = "-" then pure false else isDirectory path then
            complain "cat" (path ++ ": " ++ Errno.text Errno.isDirectory)
            status := 1
          else if (← passOrComplain path source) != 0 then status := 1
          if source != 0 then Run.call (.close source)
      return status

/-! ### Starts and ends -/

/-- How much of a text is wanted: so many units, or all but or from so many. -/
structure Amount where
  count : Nat
  /-- Whether the count is about what is left out. -/
  other : Bool
  bytes : Bool
deriving DecidableEq, Repr

/-- The amount that a text stands for, given the sign that asks for what is left out. -/
def readAmount? (sign : Char) (text : String) (bytes : Bool) : Option Amount :=
  match text.toList with
  | c :: rest =>
    if c = sign then (natural? (String.ofList rest)).map fun n => ⟨n, true, bytes⟩
    else if c = '-' || c = '+' then (natural? (String.ofList rest)).map fun n => ⟨n, false, bytes⟩
    else (natural? text).map fun n => ⟨n, false, bytes⟩
  | [] => none

/-- The amount that options ask for, or what is wrong with it. -/
def amountOf (sign : Char) (given : Given) : Except String Amount :=
  match given.options.reverse.find? fun entry => entry.1 = 'n' || entry.1 = 'c' with
  | none => .ok ⟨10, false, false⟩
  | some (letter, text) =>
    match readAmount? sign text (letter = 'c') with
    | some amount => .ok amount
    | none => .error ("invalid number of " ++ (if letter = 'c' then "bytes" else "lines") ++ ": " ++
        quoted text)

/-- Arguments of which the first may be a count after a hyphen by itself. -/
def spellCount : List String → List String
  | [] => []
  | argument :: rest =>
    match argument.toList with
    | '-' :: c :: more =>
      if (c :: more).all Char.isDigit then "-n" :: String.ofList (c :: more) :: rest
      else argument :: rest
    | _ => argument :: rest

/-- The header of a file among several. -/
def header (first : Bool) (path : String) : String :=
  (if first then "" else "\n") ++ "==> " ++ (if path = "-" then "standard input" else path) ++
      " <==\n"

/-- The start of a text without its last units. -/
def dropEnd (amount : Amount) (text : String) : String :=
  if amount.bytes then String.ofList (text.toList.take (text.length - amount.count))
  else
    let lines := Text.terminated text.toList
    String.ofList (lines.take (lines.length - amount.count)).flatten

/-- The end of a text. -/
def endOf (amount : Amount) (text : String) : String :=
  if amount.bytes then
    String.ofList (text.toList.drop
      (if amount.other then amount.count - 1 else text.length - amount.count))
  else
    let lines := Text.terminated text.toList
    String.ofList (lines.drop
      (if amount.other then amount.count - 1 else lines.length - amount.count)).flatten

/-- Runs `head` or `tail` on files, given how one is passed on. -/
def onFiles (name : String) (quiet : Bool) (paths : List String)
    (pass : Descriptor → Run Unit) : Run Nat := do
  let mut status := 0
  let mut first := true
  let several := paths.length > 1 && !quiet
  for path in if paths.isEmpty then ["-"] else paths do
    match ← openArgument path with
    | .error code =>
      complain name ("cannot open " ++ quoted path ++ " for reading: " ++ Errno.text code)
      status := 1
    | .ok source =>
      if several then Run.print 1 (header first path)
      first := false
      if ← if path = "-" then pure false else isDirectory path then
        complain name ("error reading " ++ quoted path ++ ": " ++ Errno.text Errno.isDirectory)
        status := 1
      else pass source
      if source != 0 then Run.call (.close source)
  return status

/-- The options of `head` and `tail`. -/
def endOptions : OptionTable where
  plain := "fFqrvz"
  valued := "ncs"
  long := [("lines", 'n'), ("bytes", 'c'), ("quiet", 'q'), ("silent", 'q'), ("verbose", 'v')]

/-- Does the work of `head` or `tail` with the amount that is asked for. -/
def withAmount (name : String) (sign : Char) (arguments : List String)
    (pass : Amount → Descriptor → Run Unit) : Run Nat :=
  withGiven name endOptions (name :: spellCount arguments.tail) fun given => do
    match amountOf sign given with
    | .ok amount => onFiles name (given.has 'q') given.others (pass amount)
    | .error text => do
      complain name text
      return 1

/-- Runs `head`. -/
def head (arguments : List String) (_ : List (String × String)) : Run Nat :=
  withAmount "head" '-' arguments fun amount source => do
    if amount.other then
      match ← Run.readAll source with
      | .ok bytes => Run.print 1 (dropEnd amount (ByteText.ofBytes bytes))
      | .error _ => pure ()
    else if amount.bytes then passBytes source Run.maxRounds amount.count
    else passLines source Run.maxRounds amount.count

/-- Runs `tail`. -/
def tail (arguments : List String) (_ : List (String × String)) : Run Nat :=
  withAmount "tail" '+' arguments fun amount source => do
    match ← Run.readAll source with
    | .ok bytes => Run.print 1 (endOf amount (ByteText.ofBytes bytes))
    | .error _ => pure ()

/-! ### Copies -/

/-- Runs `tee`. -/
def tee (arguments : List String) (_ : List (String × String)) : Run Nat :=
  withGiven "tee" { plain := "aip", long := [("append", 'a')] } arguments fun given => do
  let mut targets : List Descriptor := []
  let mut status := 0
  for path in given.others do
    match ← Run.call (.openFile path ⟨true, false, !given.has 'a', true⟩ (given.has 'a')) with
    | .ok descriptor => targets := targets ++ [descriptor]
    | .error code =>
      complain "tee" (path ++ ": " ++ Errno.text code)
      status := 1
  match ← Run.readAll 0 with
  | .ok bytes =>
    for target in 1 :: targets do
      let _ ← Run.write target bytes
    return status
  | .error _ => return 1

end Runbook.Utility
