import Runbook.Shell.Interpreter
import Runbook.Utility.Count
/-!
# Utilities that start programs

`env`, `xargs` and `timeout` start another program, and `kill` ends one. They are given the programs
that there are.
-/

set_option autoImplicit false

namespace Runbook.Utility

open Sandbox
open Shell.Builtin (signal?)

/-! ### Time -/

/-- The nanoseconds that a text of seconds stands for. -/
def nanoseconds? (text : String) : Option Nat :=
  let chars := text.toList
  let whole := chars.takeWhile Char.isDigit
  let rest := chars.drop whole.length
  let (fraction, rest) := match rest with
    | '.' :: rest => (rest.takeWhile Char.isDigit, rest.dropWhile Char.isDigit)
    | _ => ([], rest)
  let unit? := match rest with
    | [] => some 1
    | ['s'] => some 1
    | ['m'] => some 60
    | ['h'] => some 3600
    | ['d'] => some 86400
    | _ => none
  if whole.isEmpty && fraction.isEmpty then none
  else
    let digits := (String.ofList (whole ++ fraction)).toNat?.getD 0
    unit?.map fun unit => digits * 1000000000 * unit / Nat.pow 10 fraction.length

/-- Runs `sleep`. -/
def sleep (arguments : List String) (_ : List (String × String)) : Run Nat :=
  withOperands "sleep" { } arguments fun given => do
    match given.others.find? fun text => (nanoseconds? text).isNone with
    | some text => do
      complainOfUse "sleep" ("invalid time interval " ++ quoted text)
      return 1
    | none =>
      let now : Nat ← Run.call .clock
      let span := (given.others.filterMap nanoseconds?).foldl (· + ·) 0
      Run.call (.sleepUntil (now + span))
      return 0

/-! ### Starting -/

/-- The first of some directories in which something stands that can be started. -/
def placeOf (name : String) : List String → Run (Option String)
  | [] => return none
  | directory :: rest => do
    match ← statusAt? (below directory name) true with
    | some status =>
      if status.kind = .file && status.mode &&& 0o111 != 0 then return some (below directory name)
      else placeOf name rest
    | none => placeOf name rest

/-- The path of the program with a name. -/
def pathOf (name : String) (environment : List (String × String)) : Run (Option String) :=
  if '/' ∈ name.toList then return some name
  else placeOf name (((environment.lookup "PATH").getD "/usr/bin:/bin").splitOn ":")

/-- Becomes another program, or tells in words that are given that this is not possible. -/
def become (programs : Shell.Programs) (own : String) (call : String → String)
    (arguments : List String) (environment : List (String × String)) : Run Nat := do
  let name := arguments.headD ""
  match ← pathOf name environment with
  | none =>
    complain own (call name ++ ": " ++ Errno.text Errno.noEntry)
    return 127
  | some path =>
    match ← Shell.start programs path arguments environment with
    | .ok status => return status
    | .error code =>
      complain own (call name ++ ": " ++ Errno.text code)
      return if code = Errno.noEntry then 127 else 126

/-- The options of `env`. -/
def envOptions : OptionTable where
  plain := "i0"
  valued := "uCS"
  long := [("ignore-environment", 'i'), ("unset", 'u'), ("chdir", 'C'), ("null", '0')]
  stopsEarly := true
  failure := 125

/-- Runs `env`. -/
def env (programs : Shell.Programs) (arguments : List String)
    (environment : List (String × String)) : Run Nat :=
  withGiven "env" envOptions arguments fun given => do
    let (clear, rest) := match given.others with
      | "-" :: rest => (true, rest)
      | rest => (given.has 'i', rest)
    let settings := rest.takeWhile fun text => '=' ∈ text.toList
    let set (environment : List (String × String)) (text : String) : List (String × String) :=
      let name := text.toList.takeWhile (· != '=')
      Shell.State.replaceValue (String.ofList name)
        (String.ofList (text.toList.drop (name.length + 1))) environment
    let kept := if clear then [] else environment.filter fun entry => entry.1 ∉ given.values 'u'
    let environment := settings.foldl set kept
    match rest.drop settings.length with
    | [] =>
      for (name, value) in environment do
        Run.print 1 (line (name ++ "=" ++ value))
      return 0
    | command => become programs "env" quoted command environment

/-- Runs `printenv`. -/
def printenv (arguments : List String) (environment : List (String × String)) : Run Nat := do
  match arguments.tail with
  | [] =>
    for (name, value) in environment do
      Run.print 1 (line (name ++ "=" ++ value))
    return 0
  | names =>
    forAll (fun name => do
      match environment.lookup name with
      | some value => do
        Run.print 1 (line value)
        return true
      | none => return false) names 0

/-- Runs a program in a child: its status. -/
def runChild (programs : Shell.Programs) (own : String) (arguments : List String)
    (environment : List (String × String)) : Run Nat := do
  let child ← Run.fork (become programs own id arguments environment)
  match ← Run.call (.wait (some child) true false) with
  | .ok (some (_, status)) => return Shell.statusOf status
  | _ => return 127

/-- Items in groups of a size. -/
def inGroups {α : Type} (size : Nat) : Nat → List α → List (List α)
  | 0, _ => []
  | fuel + 1, items =>
    if items.isEmpty then [] else items.take size :: inGroups size fuel (items.drop size)

/-- What `xargs` runs for what it reads: the words of each command. -/
def xargsCalls (given : Given) (text : String) : List (List String) :=
  let command := if given.others.isEmpty then ["echo"] else given.others
  let words := wordsOf text
  match given.value? 'I', ((given.value? 'n').orElse fun () => given.value? 'L').bind natural? with
  | some sign, _ =>
    ((linesOf text).filter fun item => item != "").map fun item =>
        command.map fun (word : String) =>
      String.intercalate (String.ofList (item.toList.dropWhile Shell.isBlank)) (word.splitOn sign)
  | none, some size =>
    (inGroups (max 1 size) words.length words).map fun group => command ++ group
  | none, none => if given.has 'r' && words.isEmpty then [] else [command ++ words]

/-- The options of `xargs`. -/
def xargsOptions : OptionTable where
  plain := "0oprtx"
  valued := "adEILnPs"
  long := [("no-run-if-empty", 'r'), ("max-args", 'n'), ("replace", 'I'), ("max-lines", 'L'),
    ("null", '0'), ("verbose", 't')]
  stopsEarly := true

/-- Runs `xargs`. -/
def xargs (programs : Shell.Programs) (arguments : List String)
    (environment : List (String × String)) : Run Nat :=
  withGiven "xargs" xargsOptions arguments fun given => do
    match ← Run.readAll 0 with
    | .error _ => return 1
    | .ok bytes =>
      let mut status := 0
      for call in xargsCalls given (ByteText.ofBytes bytes) do
        let result ← runChild programs "xargs" call environment
        if result = 127 || result = 126 then status := result
        else if result != 0 then status := 123
      return status

/-- Runs `timeout`: a second process waits for the time to run out and then ends the program. -/
def timeout (programs : Shell.Programs) (arguments : List String)
    (environment : List (String × String)) : Run Nat :=
  withGiven "timeout" ⟨"v", "ks", "", [("signal", 's'), ("kill-after", 'k')], true, 125⟩ arguments
    fun given => do
      match given.others with
      | span :: command =>
        match nanoseconds? span, (given.value? 's').elim (some System.terminateSignal)
            (signal? 1) with
        | none, _ => do
          complainOfUse "timeout" ("invalid time interval " ++ quoted span)
          return 125
        | _, none => do
          complainOfUse "timeout" (quoted ((given.value? 's').getD "") ++ ": invalid signal")
          return 125
        | some span, some signal => do
          let now : Nat ← Run.call .clock
          let call (name : String) : String := "failed to run command " ++ quoted name
          let child ← Run.fork (become programs "timeout" call command environment)
          let watch ← Run.fork do
            Run.call (.sleepUntil (now + span))
            let _ ← Run.call (.signal child signal)
            return 0
          match ← Run.call (.wait none true false) with
          | .ok (some (first, status)) =>
            let later : Nat ← Run.call .clock
            if first = child && later < now + span then
              let _ ← Run.call (.signal watch System.killSignal)
              return Shell.statusOf status
            else
              let _ ← Run.call (.wait (some (if first = child then watch else child)) true false)
              if signal = System.killSignal then
                let (own, _) ← Run.call .identity
                let _ ← Run.call (.signal own signal)
              return 124
          | _ => return 125
      | [] => do
        Run.print 2 "Try 'timeout --help' for more information.\n"
        return 125

/-- Runs `kill` as a program of its own. -/
def kill (arguments : List String) (_ : List (String × String)) : Run Nat := do
  let (signal?, targets) := match arguments.tail with
    | "-s" :: name :: rest => (signal? 1 name, rest)
    | "--" :: rest => (some System.terminateSignal, rest)
    | first :: rest =>
      match first.toList with
      | '-' :: name => (signal? 1 (String.ofList name), rest)
      | _ => (some System.terminateSignal, first :: rest)
    | [] => (some System.terminateSignal, [])
  match signal? with
  | none => do
    complain "kill" ("invalid signal " ++ quoted (arguments.getD 1 ""))
    return 1
  | some signal =>
    forAll (fun target => do
      match target.toInt? with
      | none => do
        complain "kill" ("failed to parse argument: " ++ quoted target)
        return false
      | some number =>
        match ← Run.call (.signal number signal) with
        | .ok () => return true
        | .error code => wentWell "kill" ("(" ++ target ++ ")") (some code)) targets 0

/-- Runs `which`. -/
def which (arguments : List String) (environment : List (String × String)) : Run Nat :=
  if arguments.tail.isEmpty then return 1
  else
    forAll (fun name => do
      match ← pathOf name environment with
      | some path => do
        if (← statusAt? path true).isSome then
          Run.print 1 (line path)
          return true
        else return false
      | none => return false) arguments.tail 0

end Runbook.Utility
