import Runbook.Shell.Builtin.Variables
import Runbook.Shell.Children
/-!
# Commands on signals and children

What a shell does about signals, how it sends them, and how it waits for the processes that it has
started in the background. A shell without job control has no jobs, so no name of one is known.
-/

set_option autoImplicit false

namespace Runbook.Shell.Builtin

open Machine Sandbox

/-! ### Names of signals -/

/-- The least number that no signal has. -/
def signalEnd : Nat := 65

/-- The name of a signal without the letters that all such names start with, or its number. -/
def signalName (number : Nat) : String :=
  match ExitStatus.signalNames.lookup number with
  | some name => String.ofList (name.toList.drop 3)
  | none =>
    if number = 0 then "EXIT"
    else if number = 34 then "RTMIN"
    else if 34 < number && number < 50 then "RTMIN+" ++ toString (number - 34)
    else if 50 ≤ number && number < 64 then "RTMAX-" ++ toString (64 - number)
    else if number = 64 then "RTMAX"
    else toString number

/-- The number of a signal, by its number or by its name. Only names from a least number on are
known. -/
def signal? (least : Nat) (text : String) : Option Nat :=
  if text != "" && text.toList.all Char.isDigit then
    text.toNat?.filter (· < signalEnd)
  else
    let name := String.ofList (text.toList.map Char.toUpper)
    (List.range signalEnd).find? fun number => least ≤ number && signalName number = name

/-! ### Traps -/

/-- Sets what is done about a signal. -/
def setTrap (number : Nat) (action : Option String) : Sh Unit := do
  modify fun state =>
    let others := state.traps.filter fun trap => trap.1 != number
    { state with
      traps := match action with
        | some text => others ++ [(number, text)]
        | none => others }
  if number != 0 then
    Sh.call (.handle number (match action with
      | none => .standard
      | some "" => .ignored
      | some _ => .caught))

/-- Sets what is done about signals. -/
def setTraps (action : Option String) : List String → Sh Nat
  | [] => return 0
  | name :: rest => do
    match signal? 0 name with
    | none => do
      Sh.lift (Run.print 2 ("trap: " ++ name ++ ": bad trap\n"))
      return 1
    | some number =>
      setTrap number action
      setTraps action rest

/-- Runs `trap`. -/
def trap (arguments : List String) : Sh Nat := do
  match (← options [] [] arguments).others with
  | [] =>
    for (number, text) in (← get).traps.mergeSort fun a b => a.1 ≤ b.1 do
      Sh.print ("trap -- " ++ quoteValue text ++ " " ++ signalName number ++ "\n")
    return 0
  | [name] => setTraps none [name]
  | first :: rest =>
    if first = "-" then setTraps none rest
    else if (first.toNat?).isSome then setTraps none (first :: rest)
    else setTraps (some first) rest

/-! ### Sending -/

/-- The number of the process or group that an argument names. -/
def target (argument : String) : Sh Int := do
  match argument.toList with
  | '%' :: _ => Sh.failWith ("No such job: " ++ argument)
  | '-' :: group => return -Int.ofNat (← count (String.ofList group))
  | _ => return Int.ofNat (← count argument)

/-- Sends a signal to processes. -/
def killAll (number : Nat) : List String → Nat → Sh Nat
  | [], status => return status
  | argument :: rest, status => do
    match ← Sh.call (.signal (← target argument) number) with
    | .ok () => killAll number rest status
    | .error code => do
      Sh.warn (Errno.text code ++ "\n")
      killAll number rest 1

/-- Lists the names of all signals, or tells the one of a number or status. -/
def listSignals : List String → Sh Nat
  | [] => do
    Sh.print "0\n"
    for number in (List.range signalEnd).tail do
      Sh.print ((if number = 16 then "16" else signalName number) ++ "\n")
    return 0
  | argument :: _ => do
    let number ← count argument
    let number := if 128 < number then number - 128 else number
    if 0 < number && number < signalEnd then
      Sh.print (signalName number ++ "\n")
      return 0
    else Sh.failWith ("invalid signal number or exit status: " ++ argument)

/-- Runs `kill`. -/
def kill (arguments : List String) : Sh Nat := do
  let direct? := match arguments.head?.map String.toList with
    | some ('-' :: name) => signal? 1 (String.ofList name)
    | _ => none
  match direct? with
  | some number => send number arguments.tail
  | none =>
    let given ← if arguments.head?.any (fun first => first.toList.head? = some '-') then
        options ['l'] ['s'] arguments
      else pure ⟨[], arguments⟩
    match (given.options.filter fun entry => entry.1 = 's').getLast? with
    | some (_, name) =>
      match signal? 1 name with
      | none => Sh.failWith ("invalid signal number or name: " ++ name)
      | some number => if given.has 'l' then misused else send number given.others
    | none =>
      if given.has 'l' then listSignals given.others else send System.terminateSignal given.others
where
  misused : Sh Nat :=
    Sh.failWith ("Usage: kill [-s sigspec | -signum | -sigspec] [pid | job]... or\n" ++
      "kill -l [exitstatus]")
  send (number : Nat) (targets : List String) : Sh Nat :=
    if targets.isEmpty then misused else killAll number targets 0

/-! ### Waiting -/

/-- The status of a wait that a signal has ended. -/
def interruptedStatus : Nat := 129

/-- Waits for all children, within a bound. -/
def waitAll : Nat → Sh Nat
  | 0 => return 0
  | fuel + 1 => do
    match ← Sh.call (.wait none true true) with
    | .ok _ => waitAll fuel
    | .error code => return if code = Errno.interrupted then interruptedStatus else 0

/-- Waits for children. -/
def waitEach : List String → Nat → Sh Nat
  | [], status => return status
  | argument :: rest, _ => do
    match ← target argument with
    | .ofNat child =>
      match ← waitFor child true with
      | .ok status => waitEach rest status
      | .error code =>
        if code = Errno.interrupted then return interruptedStatus else waitEach rest 127
    | _ => waitEach rest 127

/-- Runs `wait`. -/
def wait (arguments : List String) : Sh Nat := do
  let others := (← options [] [] arguments).others
  if others.isEmpty then
    modify fun state => { state with ended := [] }
    waitAll Run.maxRounds
  else waitEach others 0

/-! ### Jobs -/

/-- Runs `jobs`. -/
def jobs (arguments : List String) : Sh Nat := do
  match (← options ['l', 'p'] [] arguments).others with
  | [] => return 0
  | name :: _ => Sh.failWith ("No such job: " ++ name)

/-- Runs `fg` and `bg`. -/
def resume (arguments : List String) : Sh Nat := do
  match (← options [] [] arguments).others with
  | [] => Sh.failWith "No current job"
  | name :: _ => Sh.failWith ("No such job: " ++ name)

end Runbook.Shell.Builtin
