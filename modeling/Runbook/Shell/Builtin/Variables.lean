import Runbook.Shell.Builtin.Basic
import Runbook.Shell.Expand
/-!
# Commands on the variables of a shell

Variables are marked, removed and kept for a function; options and arguments are set; and the
fields of a line that is read become values.
-/

set_option autoImplicit false

namespace Runbook.Shell.Builtin

open Sandbox

/-! ### Marks -/

/-- A text in single quotes, as the shell writes values. -/
def quoteValue (text : String) : String :=
  "'" ++ "'\"'\"'".intercalate (text.splitOn "'") ++ "'"

/-- An argument as a name and, after an equals sign, a value. -/
def nameAndValue (argument : String) : String × Option String :=
  let name := argument.toList.takeWhile (· != '=')
  if name.length < argument.length then
    (String.ofList name, some (String.ofList (argument.toList.drop (name.length + 1))))
  else (argument, none)

/-- Refuses what is no name of a variable. -/
def requireName (name : String) : Sh Unit := do
  if !isName name then Sh.failWith (name ++ ": bad variable name")

/-- Marks variables, which may be given values first. -/
def markVariables (mark : Variable → Variable) : List String → Sh Nat
  | [] => return 0
  | argument :: rest => do
    let (name, value) := nameAndValue argument
    requireName name
    match value with
    | some value => assign name value
    | none => pure ()
    modify fun state => state.setVariable name (mark (state.variableOrNew name))
    markVariables mark rest

/-- Lists variables that are marked. -/
def listMarked (command : String) (marked : Variable → Bool) : Sh Nat := do
  let entries := ((← get).bindings.filter fun entry => marked entry.2).mergeSort
    fun a b => !(b.1 < a.1)
  for (name, entry) in entries do
    let value := match entry.value with
      | some value => "=" ++ quoteValue value
      | none => ""
    Sh.print (command ++ " " ++ name ++ value ++ "\n")
  return 0

/-- Runs `export`. -/
def exportVariables (arguments : List String) : Sh Nat := do
  let given ← options ['p'] [] arguments
  if given.has 'p' || given.others.isEmpty then listMarked "export" Variable.exported
  else markVariables (fun entry => { entry with exported := true }) given.others

/-- Runs `readonly`. -/
def protectVariables (arguments : List String) : Sh Nat := do
  let given ← options ['p'] [] arguments
  if given.has 'p' || given.others.isEmpty then listMarked "readonly" Variable.readOnly
  else markVariables (fun entry => { entry with readOnly := true }) given.others

/-- Removes variables. -/
def unsetVariables : List String → Sh Nat
  | [] => return 0
  | name :: rest => do
    requireName name
    if ((← get).variableOrNew name).readOnly then Sh.failWith (name ++ ": is read only")
    modify fun state =>
      { state with bindings := state.bindings.filter fun entry => entry.1 != name }
    unsetVariables rest

/-- Runs `unset`. -/
def unset (arguments : List String) : Sh Nat := do
  let given ← options ['v', 'f'] [] arguments
  if (given.options.getLast?.map Prod.fst) = some 'f' then
    modify fun state =>
      { state with functions := state.functions.filter fun entry => entry.1 ∉ given.others }
    return 0
  else unsetVariables given.others

/-- Makes variables a function's own. -/
def makeLocals (frames : List (List (String × Option Variable))) :
    List (String × Option Variable) → List String → Sh Nat
  | _, [] => return 0
  | frame, argument :: rest => do
    let (name, value) := nameAndValue argument
    requireName name
    let state ← get
    let frame := (name, state.bindings.lookup name) :: frame
    set { state with locals := frame :: frames }
    match value with
    | some value => assign name value
    | none => pure ()
    makeLocals frames frame rest

/-- Runs `local`. -/
def makeLocal (arguments : List String) : Sh Nat := do
  match (← get).locals with
  | [] => Sh.failWith "not in a function"
  | frame :: frames => makeLocals frames frame arguments

/-! ### Options and arguments -/

/-- Switches an option. -/
def switch (on : Bool) (option : Char) : Sh Unit := do
  if option ∉ optionLetters then Sh.failWith ("Illegal option -" ++ option.toString)
  modify fun state =>
    let others := state.options.filter (· != option)
    { state with options := if on then others ++ [option] else others }

/-- Reads options from arguments: the arguments after them, if there are any or a mark that there
may be. -/
def setOptions : List String → Sh (Option (List String))
  | [] => return none
  | "--" :: rest => return some rest
  | ["-o"] => do
    let state ← get
    Sh.print "Current option settings\n"
    for (name, letter) in optionNames do
      let blanks := String.ofList (List.replicate (16 - name.length) ' ')
      Sh.print (name ++ blanks ++ (if letter.any state.has then "on" else "off") ++ "\n")
    return none
  | ["+o"] => do
    let state ← get
    for (name, letter) in optionNames do
      Sh.print ((if letter.any state.has then "set -o " else "set +o ") ++ name ++ "\n")
    return none
  | "-o" :: name :: rest => setNamed true name rest
  | "+o" :: name :: rest => setNamed false name rest
  | argument :: rest => do
    match argument.toList with
    | '-' :: c :: letters => do
      for letter in c :: letters do switch true letter
      setOptions rest
    | '+' :: c :: letters => do
      for letter in c :: letters do switch false letter
      setOptions rest
    | _ => return some (argument :: rest)
where
  setNamed (on : Bool) (name : String) (rest : List String) : Sh (Option (List String)) := do
    match optionNames.lookup name with
    | some (some letter) => switch on letter
    | some none => pure ()
    | none => Sh.failWith ("Illegal option -o " ++ name)
    setOptions rest

/-- Runs `set`. -/
def setArguments (arguments : List String) : Sh Nat := do
  match arguments with
  | [] =>
    let entries := (← get).bindings.mergeSort fun a b => !(b.1 < a.1)
    for (name, entry) in entries do
      match entry.value with
      | some value => Sh.print (name ++ "=" ++ quoteValue value ++ "\n")
      | none => pure ()
    return 0
  | _ =>
    match ← setOptions arguments with
    | some rest => modify fun state => { state with arguments := rest }
    | none => pure ()
    return 0

/-- Runs `shift`. -/
def shift (arguments : List String) : Sh Nat := do
  let places ← match arguments with
    | [] => pure 1
    | argument :: _ => count argument
  let state ← get
  if state.arguments.length < places then Sh.failWith "can't shift that many"
  else
    set { state with arguments := state.arguments.drop places }
    return 0

/-! ### Reading -/

/-- Reads a line, within a bound: its characters and whether they are quoted, in reverse, and
whether a newline ended it. -/
def readLine (raw : Bool) : Nat → Field → Sh (Field × Bool)
  | 0, read => return (read, false)
  | fuel + 1, read => do
    match ← Sh.call (.read 0 1) with
    | .ok [byte] =>
      let c := Char.ofNat byte.toNat
      if c = '\n' then return (read, true)
      else if c = '\\' && !raw then
        match ← Sh.call (.read 0 1) with
        | .ok [byte] =>
          let d := Char.ofNat byte.toNat
          if d = '\n' then readLine raw fuel read else readLine raw fuel ((d, true) :: read)
        | _ => return (read, false)
      else if c = '\x00' then readLine raw fuel read
      else readLine raw fuel ((c, false) :: read)
    | _ => return (read, false)

/-- Assigns the fields of a line to variables, the rest to the last one. -/
def assignFields (separators : List Char) : List String → Field → Sh Unit
  | [], _ => return
  | name :: names, line => do
    let isSeparator (mark : Pattern.Mark) : Bool := !mark.2 && mark.1 ∈ separators
    let isGap (mark : Pattern.Mark) : Bool := isSeparator mark && isSpace mark.1
    let start := line.dropWhile isGap
    if names.isEmpty then
      let kept := (start.reverse.dropWhile isGap).reverse
      let body := kept.takeWhile fun mark => !isSeparator mark
      let whole := if kept.length = body.length + 1 && kept.getLast?.any isSeparator then body
        else kept
      requireName name
      assign name (fieldText whole)
    else
      let field := start.takeWhile fun mark => !isSeparator mark
      let after := (start.drop field.length).dropWhile isGap
      let after := match after with
        | mark :: more => if isSeparator mark then more.dropWhile isGap else after
        | [] => []
      requireName name
      assign name (fieldText field)
      assignFields separators names after

/-- Runs `read`. -/
def read (arguments : List String) : Sh Nat := do
  let given ← options ['r'] ['p'] arguments
  if given.others.isEmpty then Sh.failWith "arg count"
  else
    let (line, ended) ← readLine (given.has 'r') Run.maxRounds []
    assignFields (← get).separators given.others line.reverse
    return if ended then 0 else 1

end Runbook.Shell.Builtin
