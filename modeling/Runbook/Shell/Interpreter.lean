import Runbook.Shell.Builtin
import Runbook.Shell.Grammar
import Runbook.Shell.Redirect
/-!
# Running shell scripts

A command is run by a step that leaves the running of its parts to an interpreter. `interpreter`
is the one that takes such steps to any depth up to a bound.
-/

set_option autoImplicit false

namespace Runbook.Shell

open Machine Sandbox

/-- The programs that can be started: given their name and then their arguments, and the variables
that they are given. -/
abbrev Programs := String → Option (List String → List (String × String) → Run Nat)

/-! ### Finding and starting programs -/

/-- The directories in which programs are looked for. -/
def searchPath (state : State) : List String :=
  ((state.value? "PATH").getD "").splitOn ":"

/-- The first path of some directories at which a program stands. -/
def searchIn (name : String) : List String → Sh (Option String)
  | [] => return none
  | directory :: rest => do
    let path := (if directory = "" then "." else directory) ++ "/" ++ name
    match ← Sh.call (.status path true) with
    | .ok status =>
      if status.kind = .file && status.mode &&& 0o111 != 0 then return some path
      else searchIn name rest
    | .error _ => searchIn name rest

/-- The path of the program with a name. -/
def search (name : String) : Sh (Option String) := do
  if name = "" then return none
  else if '/' ∈ name.toList then return some name
  else searchIn name (searchPath (← get))

/-- The words of the first line of a script that names its interpreter. -/
def interpreterLine? (bytes : Bytes) : Option (List String) :=
  match ByteText.chars (bytes.take 256) with
  | '#' :: '!' :: rest =>
    let line := (rest.takeWhile (· != '\n')).dropWhile isBlank
    let path := line.takeWhile fun c => !isBlank c
    let argument := ((line.drop path.length).dropWhile isBlank).reverse.dropWhile isBlank
    if path.isEmpty then none
    else if argument.isEmpty then some [String.ofList path]
    else some [String.ofList path, String.ofList argument.reverse]
  | _ => none

/-- Starts what stands at a path in place of this process: its status, or why it cannot be
started. -/
def start (programs : Programs) (path : String) (arguments : List String)
    (environment : List (String × String)) : Run (Except Errno Nat) := do
  match ← Run.call (.status path true) with
  | .error code => return .error code
  | .ok status =>
    if status.kind != .file || status.mode &&& 0o111 = 0 then return .error Errno.denied
    else
      let direct : Option String ← Run.call (.programAt path)
      match direct.bind programs with
      | some program =>
        Run.call .become
        return .ok (← program arguments environment)
      | none =>
        match ← Run.readFile path with
        | .error code => return .error code
        | .ok bytes =>
          let words := (interpreterLine? bytes).getD ["/bin/sh"]
          let name : Option String ← Run.call (.programAt (words.head?.getD "/bin/sh"))
          match name.bind programs with
          | none => return .error Errno.noEntry
          | some program =>
            Run.call .become
            return .ok (← program (words ++ path :: arguments.tail) environment)

/-- Starts a program in place of this shell. -/
def become (programs : Programs) (path : String) (arguments : List String) : Sh Unit := do
  match ← Sh.lift (start programs path arguments (← get).environment) with
  | .ok status => Sh.lift (Run.exit status)
  | .error code =>
    let missing := code = Errno.noEntry || code = Errno.notDirectory
    Sh.warn (arguments.headD "" ++ ": " ++ (if missing then "not found" else Errno.text code))
    Sh.jump (.exit (if missing then 127 else 126))

/-- Whether something is to be done about a signal or at the end. -/
def hasTraps (state : State) : Bool := state.traps.any fun trap => trap.2 != ""

/-- Runs a program: its status. It runs in a child unless the shell ends with it. -/
def runProgram (programs : Programs) (interpreter : Interpreter) (isLast : Bool)
    (arguments : List String) : Sh Nat := do
  let name := arguments.headD ""
  match ← search name with
  | none =>
    Sh.warn (name ++ ": " ++ (if name = "" then Errno.text Errno.denied else "not found"))
    return 127
  | some path =>
    if isLast && !hasTraps (← get) then
      become programs path arguments
      return 0
    else
      let child ← fork interpreter (become programs path arguments)
      statusAfter child

/-! ### Traps -/

/-- Runs what is to be done about the signals that have come. -/
def runTraps (interpreter : Interpreter) : Sh Unit := do
  let state ← get
  if state.traps.any fun trap => trap.1 != 0 && trap.2 != "" then
    let caught : List Nat ← Sh.call .takeSignals
    for number in caught do
      match (← get).traps.lookup number with
      | some text =>
        let status := (← get).status
        interpreter.runText text
        Sh.setStatus status
      | none => pure ()

/-- Ends the shell when the last command has failed and that is to end it. -/
def checkFailure : Sh Unit := do
  let state ← get
  if state.has 'e' && !state.tested && state.status != 0 then Sh.jump (.exit state.status)

/-- Does something whose failure decides something. -/
def asTest {α : Type} (body : Sh α) : Sh α := do
  let tested := (← get).tested
  modify fun state => { state with tested := true }
  try
    let result ← body
    modify fun state => { state with tested }
    return result
  catch jump =>
    modify fun state => { state with tested }
    throw jump

/-! ### Simple commands -/

/-- Assigns the values of words to variables. -/
def assignWords (interpreter : Interpreter) : List (String × Word) → Sh Unit
  | [] => return
  | (name, word) :: rest => do
    assign name (← expandText interpreter word)
    assignWords interpreter rest

/-- Does something with variables that are changed back after it. -/
def withVariables {α : Type} (interpreter : Interpreter) (assignments : List (String × Word))
    (body : Sh α) : Sh α := do
  if assignments.isEmpty then body
  else
    let before := (← get).bindings
    assignWords interpreter assignments
    modify fun state =>
      { state with
        bindings := state.bindings.map fun (name, entry) =>
          (name, { entry with exported := entry.exported || assignments.any fun a => a.1 = name }) }
    let names := assignments.map Prod.fst
    let back (state : State) : State :=
      let kept := state.bindings.filter fun entry => entry.1 ∉ names
      { state with bindings := kept ++ before.filter fun entry => entry.1 ∈ names }
    try
      let result ← body
      modify back
      return result
    catch jump =>
      modify back
      throw jump

/-- Gives variables that a function made its own their old values. -/
def dropLocals (frame : List (String × Option Variable)) : Sh Unit :=
  modify fun state => frame.foldl (fun state (name, old) =>
    match old with
    | some entry => state.setVariable name entry
    | none => { state with bindings := state.bindings.filter fun entry => entry.1 != name }) state

/-- Runs a function. -/
def runFunction (interpreter : Interpreter) (body : Command) (arguments : List String) :
    Sh Nat := do
  let before ← get
  set { before with arguments, locals := [] :: before.locals, loops := 0 }
  let leave : Sh Unit := do
    let state ← get
    dropLocals (state.locals.headD [])
    modify fun state =>
      { state with arguments := before.arguments, locals := before.locals, loops := before.loops }
  try
    interpreter.run body
    leave
    return (← get).status
  catch jump =>
    leave
    match jump with
    | .return status => return status
    | _ => throw jump

/-- What a name stands for as a command. -/
inductive Meaning where
  | keyword
  | function
  | special
  | builtin
  | program (path : String)
  | nothing

/-- The commands that need more than their arguments. -/
def commandNames : List String := ["eval", ".", "exec", "command", "type", "hash"]

/-- What a name stands for. -/
def meaning (name : String) : Sh Meaning := do
  let state ← get
  if name ∈ keywords then return .keyword
  else if name ∈ specialNames then return .special
  else if (state.functions.lookup name).isSome then return .function
  else if (Builtin.table.lookup name).isSome || name ∈ commandNames then return .builtin
  else
    match ← search name with
    | none => return .nothing
    | some path =>
      match ← Sh.call (.status path true) with
      | .ok _ => return .program path
      | .error _ => return .nothing

/-- Tells in short what a name stands for. -/
def describeShort : List String → Sh Nat
  | [] => return 0
  | name :: _ => do
    match ← meaning name with
    | .nothing => return 127
    | .program path => do
      Sh.print (path ++ "\n")
      return 0
    | _ => do
      Sh.print (name ++ "\n")
      return 0

/-- Tells what names stand for. -/
def describe : List String → Nat → Sh Nat
  | [], status => return status
  | name :: rest, status => do
    let text := match ← meaning name with
      | .keyword => some " is a shell keyword"
      | .function => some " is a shell function"
      | .special => some " is a special shell builtin"
      | .builtin => some " is a shell builtin"
      | .program path => some (" is " ++ path)
      | .nothing => none
    match text with
    | some text => do
      Sh.print (name ++ text ++ "\n")
      describe rest status
    | none => do
      Sh.print (name ++ ": not found\n")
      describe rest 127

/-- Runs the script in a file within this shell. -/
def source (interpreter : Interpreter) : List String → Sh Nat
  | [] => return 0
  | name :: _ => do
    let place ← if '/' ∈ name.toList then pure (some name) else do
      let found ← (searchPath (← get)).findM? fun directory => do
        match ← Sh.call (.status (directory ++ "/" ++ name) true) with
        | .ok status => return status.kind = .file
        | .error _ => return false
      pure (found.map fun directory => directory ++ "/" ++ name)
    match place with
    | none => Sh.failWith (name ++ ": not found")
    | some path =>
      match ← Sh.lift (Run.readFile path) with
      | .error code => Sh.failWith (openFailure .read path code)
      | .ok bytes =>
        try
          Sh.setStatus 0
          Sh.under path (interpreter.runText (ByteText.ofBytes bytes))
          return (← get).status
        catch jump =>
          match jump with
          | .return status => return status
          | _ => throw jump

/-- Runs the text that arguments make. -/
def evaluateText (interpreter : Interpreter) (arguments : List String) : Sh Nat := do
  Sh.setStatus 0
  interpreter.runText (" ".intercalate arguments)
  return (← get).status

/-- Replaces the shell by a program. -/
def replaceShell (programs : Programs) : List String → Sh Nat
  | [] => return 0
  | program :: arguments => do
    match ← search program with
    | none => do
      Sh.warn (program ++ ": not found")
      Sh.jump (.exit 127)
    | some path => do
      become programs path (program :: arguments)
      return 0

/-- Tells where programs are, as far as they can be found. -/
def locate : List String → Nat → Sh Nat
  | [], status => return status
  | name :: rest, status => do
    match ← meaning name with
    | .nothing => do
      Sh.warn (name ++ ": not found")
      locate rest 1
    | _ => locate rest status

/-- What the shell does itself under a name. Commands that run others are given ways to do so. -/
def builtin? (programs : Programs) (interpreter : Interpreter) (name : String) :
    Option (List String → Sh Nat) :=
  match name with
  | "eval" => some (evaluateText interpreter)
  | "." => some (source interpreter)
  | "type" => some fun arguments => describe arguments 0
  | "exec" => some (replaceShell programs)
  | "hash" => some fun arguments => do locate (← Builtin.options ['r'] [] arguments).others 0
  | _ => Builtin.table.lookup name

/-- Runs a command by its name and arguments, without looking for functions, within a bound on how
often it is told to do so. -/
def runPlain (programs : Programs) (interpreter : Interpreter) (isLast : Bool) :
    Nat → List String → Sh Nat
  | 0, _ => return 127
  | _ + 1, [] => return 0
  | fuel + 1, "command" :: arguments => do
    let given ← Sh.under "command" (Builtin.options ['p', 'v', 'V'] [] arguments)
    if given.has 'v' then describeShort (given.others.take 1)
    else if given.has 'V' then describe (given.others.take 1) 0
    else runPlain programs interpreter isLast fuel given.others
  | _ + 1, name :: arguments => do
    match builtin? programs interpreter name with
    | some run => Sh.under name (run arguments)
    | none => runProgram programs interpreter isLast (name :: arguments)

/-- Runs a command that may fail: a failure is its status. -/
def mayFail (body : Sh Nat) : Sh Nat := do
  try body
  catch jump =>
    match jump with
    | .failure => return failureStatus
    | _ => throw jump

/-- Tells what is run, if that is wanted. -/
def trace (words : List String) : Sh Unit := do
  if (← get).has 'x' then Sh.lift (Run.print 2 ("+ " ++ " ".intercalate words ++ "\n"))

/-- Runs the fields of a simple command. -/
def runFields (programs : Programs) (interpreter : Interpreter) (isLast : Bool)
    (assignments : List (String × Word)) (redirections : List Redirection) (name : String)
    (arguments : List String) : Sh Unit := do
  let state ← get
  let special := name ∈ specialNames
  let function? := if special then none else state.functions.lookup name
  if name = "exec" && arguments.isEmpty then
    let (saved, wrong) ← redirectAll interpreter redirections []
    forget saved
    match wrong with
    | some text => Sh.failWith text
    | none =>
      assignWords interpreter assignments
      Sh.setStatus 0
  else
    let status? ← withRedirections interpreter redirections do
      trace (name :: arguments)
      if special then
        assignWords interpreter assignments
        runPlain programs interpreter isLast 8 (name :: arguments)
      else
        withVariables interpreter assignments do
          match function? with
          | some body => runFunction interpreter body arguments
          | none => mayFail (runPlain programs interpreter isLast 8 (name :: arguments))
    match status? with
    | some status => Sh.setStatus status
    | none => if special then Sh.jump .failure else Sh.setStatus 2

/-- Runs a simple command. -/
def runSimple (programs : Programs) (interpreter : Interpreter) (isLast : Bool) (line : Nat)
    (assignments : List (String × Word)) (words : List Word) (redirections : List Redirection) :
    Sh Unit := do
  modify fun state => { state with line, substituted := none }
  match ← expandAll interpreter words with
  | [] =>
    let done? ← withRedirections interpreter redirections (assignWords interpreter assignments)
    match done? with
    | some () => modify fun state => { state with status := state.substituted.getD 0 }
    | none => Sh.setStatus 2
  | name :: arguments =>
    runFields programs interpreter isLast assignments redirections name arguments
  runTraps interpreter
  checkFailure

/-! ### Compound commands -/

/-- Starts the stages of a pipeline, the first of which reads from a descriptor if one is given: the
children. -/
def startStages (interpreter : Interpreter) : Option Descriptor → List Command → Sh (List ProcessId)
  | _, [] => return []
  | input, [last] => do
    let child ← fork interpreter do
      match input with
      | some reader => moveDescriptor reader 0
      | none => pure ()
      interpreter.runLast last
    match input with
    | some reader => Sh.call (.close reader)
    | none => pure ()
    return [child]
  | input, stage :: stages => do
    let (reader, writer) ← Sh.call .pipe
    let child ← fork interpreter do
      Sh.call (.close reader)
      match input with
      | some previous => moveDescriptor previous 0
      | none => pure ()
      moveDescriptor writer 1
      interpreter.runLast stage
    Sh.call (.close writer)
    match input with
    | some previous => Sh.call (.close previous)
    | none => pure ()
    return child :: (← startStages interpreter (some reader) stages)

/-- Waits for children one after the other: the status of the last one. -/
def waitForAll : List ProcessId → Nat → Sh Nat
  | [], status => return status
  | child :: rest, _ => do
    waitForAll rest (← statusAfter child)

/-- Runs a command as the last one of a process, with changed descriptors. As the process ends with
it, they are not changed back, and what they stood for before is closed. -/
def runLastWith (interpreter : Interpreter) (redirections : List Redirection) (command : Command) :
    Sh Unit := do
  let (saved, wrong) ← redirectAll interpreter redirections []
  forget saved
  match wrong with
  | some text => do
    Sh.warn text
    Sh.setStatus 2
    Sh.jump .failure
  | none => interpreter.runLast command

/-- The signals of a keyboard, which are not meant for commands in the background. -/
def keyboardSignals : List Nat := [2, 3]

/-- Starts a command in the background. The shell goes on when the copy passes over those
signals. -/
def startBackground (interpreter : Interpreter) (command : Command) : Sh Unit := do
  let child ← fork interpreter do
    for signal in keyboardSignals do
      Sh.call (.handle signal .ignored)
    match ← Sh.call (.openFile "/dev/null" (howOf .read) false) with
    | .ok descriptor => moveDescriptor descriptor 0
    | .error _ => pure ()
    match command with
    | .redirected line command redirections => do
      modify fun state => { state with line }
      runLastWith interpreter redirections command
    | command => interpreter.runLast command
  for _ in keyboardSignals do
    Sh.call .pause
  modify fun state => { state with lastBackground := some child, status := 0 }

/-- Runs the body of a loop once: whether the loop goes on. -/
def runRound (body : Sh Unit) : Sh Bool := do
  modify fun state => { state with loops := state.loops + 1 }
  let leave : Sh Unit := modify fun state => { state with loops := state.loops - 1 }
  try
    body
    leave
    return true
  catch jump =>
    leave
    match jump with
    | .leave levels =>
      if levels ≤ 1 then do
        Sh.setStatus 0
        return false
      else throw (.leave (levels - 1))
    | .again levels =>
      if levels ≤ 1 then do
        Sh.setStatus 0
        return true
      else throw (.again (levels - 1))
    | jump => throw jump

/-- Repeats a body as long as a test allows it, within a bound. The status is that of the last
body. -/
def repeatWhile (interpreter : Interpreter) (untilTrue : Bool) (test body : Command) :
    Nat → Nat → Sh Unit
  | 0, status => Sh.setStatus status
  | fuel + 1, status => do
    Sh.call .pause
    let goesOn ← runRound (asTest (interpreter.run test))
    let holds := ((← get).status = 0) != untilTrue
    if goesOn && holds then
      if ← runRound (interpreter.run body) then
        repeatWhile interpreter untilTrue test body fuel (← get).status
      else return
    else Sh.setStatus (if goesOn then status else 0)

/-- Repeats a body for each of some values. -/
def repeatFor (interpreter : Interpreter) (name : String) (body : Command) : List String → Sh Unit
  | [] => return
  | value :: rest => do
    assign name value
    if ← runRound (interpreter.run body) then repeatFor interpreter name body rest

/-- Whether one of some patterns fits a text. -/
def anyFits (interpreter : Interpreter) (text : String) : List Word → Sh Bool
  | [] => return false
  | word :: rest => do
    let pattern := patternOf (← expandWord interpreter word)
    if Pattern.fits (Pattern.parts pattern) text.toList then return true
    else anyFits interpreter text rest

/-- Runs the first arm that fits a text. -/
def runArms (interpreter : Interpreter) (isLast : Bool) (text : String) :
    List (List Word × Command) → Sh Unit
  | [] => Sh.setStatus 0
  | (patterns, body) :: rest => do
    if ← anyFits interpreter text patterns then
      Sh.setStatus 0
      interpreter.runAs isLast body
    else runArms interpreter isLast text rest

/-- Runs a command, leaving its parts to an interpreter. -/
def runCommand (programs : Programs) (interpreter : Interpreter) (isLast : Bool) :
    Command → Sh Unit
  | .empty => return
  | .simple line assignments words redirections =>
    runSimple programs interpreter isLast line assignments words redirections
  | .pipeline stages => do
    let children ← startStages interpreter none stages
    Sh.setStatus (← waitForAll children 0)
    runTraps interpreter
    checkFailure
  | .negated command => do
    asTest (interpreter.run command)
    modify fun state => { state with status := if state.status = 0 then 1 else 0 }
  | .both first second => do
    asTest (interpreter.run first)
    if (← get).status = 0 then interpreter.runAs isLast second
  | .either first second => do
    asTest (interpreter.run first)
    if (← get).status != 0 then interpreter.runAs isLast second
  | .sequence first second => do
    interpreter.run first
    interpreter.runAs isLast second
  | .background command => startBackground interpreter command
  | .subshell line command redirections => do
    modify fun state => { state with line }
    let body : Sh Unit := runLastWith interpreter redirections command
    if isLast && !hasTraps (← get) then
      modify fun state => { state with loops := 0 }
      body
    else
      Sh.setStatus (← statusAfter (← fork interpreter body))
      runTraps interpreter
      checkFailure
  | .redirected line command redirections => do
    modify fun state => { state with line }
    let _ ← withRedirections interpreter redirections (interpreter.run command)
  | .conditional test accepted rejected => do
    asTest (interpreter.run test)
    let holds := (← get).status = 0
    Sh.setStatus 0
    interpreter.runAs isLast (if holds then accepted else rejected)
  | .loop untilTrue test body => repeatWhile interpreter untilTrue test body Run.maxRounds 0
  | .forEach line name words body => do
    modify fun state => { state with line }
    let values ← match words with
      | some words => expandAll interpreter words
      | none => pure (← get).arguments
    Sh.setStatus 0
    repeatFor interpreter name body values
  | .choice line word arms => do
    modify fun state => { state with line }
    let text ← expandText interpreter word
    runArms interpreter isLast text arms
  | .define name body => do
    modify fun state =>
      { state with functions := State.replaceValue name body state.functions, status := 0 }

/-- Runs a command unless commands are only to be read. -/
def step (programs : Programs) (interpreter : Interpreter) (isLast : Bool) (command : Command) :
    Sh Unit := do
  if !(← get).has 'n' then runCommand programs interpreter isLast command

/-! ### Scripts -/

/-- Runs the lines of a script, within a bound. -/
def runLines (interpreter : Interpreter) : Nat → Input → Sh Unit
  | 0, _ => return
  | fuel + 1, input => do
    match readLine?.run input with
    | .error misreading => do
      modify fun state => { state with line := misreading.line }
      Sh.failWith ("Syntax error: " ++ misreading.fault.message)
    | .ok (none, _) => return
    | .ok (some command, input) => do
      modify fun state =>
        { state with
          documents := input.documents ++ state.documents
          reached := input.line
          nextDocument := input.nextDocument }
      interpreter.run command
      runLines interpreter fuel { input with documents := [] }

/-- Runs the text of a script. -/
def runScript (interpreter : Interpreter) (text : String) : Sh Unit := do
  runLines interpreter (text.length + 2) (Input.ofText text.toList (← get).nextDocument)

/-- An interpreter for commands up to a depth. -/
def interpreter (programs : Programs) : Nat → Interpreter
  | 0 => ⟨fun _ => Sh.jump .failure, fun _ => Sh.jump .failure, fun _ => Sh.jump .failure⟩
  | depth + 1 =>
    ⟨fun command => step programs (interpreter programs depth) false command,
      fun command => step programs (interpreter programs depth) true command,
      fun text => runScript (interpreter programs depth) text⟩

/-- The greatest depth of commands in commands. -/
def maxCommandDepth : Nat := 4000

/-! ### Shells -/

/-- What a shell is started with. -/
structure Start where
  /-- The text of the script; none if it is read from a file or from the input. -/
  text : Option String
  options : List Char
  /-- What follows the options. -/
  arguments : List String
deriving DecidableEq, Repr

/-- Reads the options of a shell, or tells what is wrong with them. -/
def readStart : List String → List Char → Except String Start
  | [], options => finish options []
  | argument :: rest, options =>
    match argument.toList with
    | ['-'] => finish options rest
    | ['-', '-'] => finish options rest
    | '-' :: letters =>
      match letters.find? fun c => c ∉ 'c' :: optionLetters with
      | some c => .error ("Illegal option -" ++ c.toString)
      | none => readStart rest (options ++ letters)
    | '+' :: letters => readStart rest (options.filter (· ∉ letters))
    | _ => finish options (argument :: rest)
where
  finish (options : List Char) (arguments : List String) : Except String Start :=
    if 'c' ∈ options then
      match arguments with
      | [] => .error "-c requires an argument"
      | text :: arguments => .ok ⟨some text, options.filter (· != 'c'), arguments⟩
    else if arguments.isEmpty && 's' ∉ options then .ok ⟨none, options ++ ['s'], []⟩
    else .ok ⟨none, options, arguments⟩

/-- The directories in which programs are looked for when none are given. -/
def usualPath : String := "/usr/local/sbin:/usr/local/bin:/usr/sbin:/usr/bin:/sbin:/bin"

/-- The variables that a shell starts with. -/
def initialVariables (directory : String) (parent : ProcessId)
    (environment : List (String × String)) : List (String × Variable) :=
  let given := environment.map fun (key, value) => (key, (⟨some value, true, false⟩ : Variable))
  let own (key value : String) : String × Variable :=
    (key, (given.lookup key).getD ⟨some value, false, false⟩)
  let set := [("IFS", ⟨some " \t\n", false, false⟩),
    ("PPID", ⟨some (toString parent), false, false⟩),
    ("PWD", ⟨some directory, true, false⟩), ("OPTIND", ⟨some "1", false, false⟩)]
  let usual := [own "PATH" usualPath, own "PS1" "# ", own "PS2" "> ", own "PS4" "+ "]
  (usual ++ set).foldl (fun bindings (key, entry) => State.replaceValue key entry bindings) given

/-- The state that a shell starts with. -/
def initialState (name : String) (bindings : List (String × Variable)) (process : ProcessId)
    (options : List Char) (arguments : List String) : State where
  name := name
  bindings := bindings
  functions := []
  documents := []
  nextDocument := 0
  arguments := arguments
  status := 0
  process := process
  lastBackground := none
  options := options
  traps := []
  line := 1
  loops := 0
  locals := []
  tested := false
  ended := []
  reached := 1
  substituted := none
  command := none

/-- The working directory as a shell calls it: by the name that it is given, if that leads there. -/
def workingName (environment : List (String × String)) : Run String := do
  let here : String ← Run.call .workingDirectory
  match environment.lookup "PWD" with
  | none => return here
  | some name =>
    match ← Run.call (.canonical name) with
    | .ok place => return if place = here && name.toList.head? = some '/' then name else here
    | .error _ => return here

/-- Runs a shell as a program. -/
def main (programs : Programs) (arguments : List String) (environment : List (String × String)) :
    Run Nat := do
  let own := arguments.headD "sh"
  match readStart arguments.tail [] with
  | .error fault => do
    Run.print 2 (own ++ ": 0: " ++ fault ++ "\n")
    return failureStatus
  | .ok start =>
    let (process, parent) ← Run.call .identity
    let bindings := initialVariables (← workingName environment) parent environment
    let isInput := start.text.isNone && 's' ∈ start.options
    let state := initialState (if isInput then own else start.arguments.headD own) bindings process
      start.options (if isInput then start.arguments else start.arguments.tail)
    let interpreter := interpreter programs maxCommandDepth
    let run (text : String) : Run Nat := runShell interpreter (interpreter.runText text) state
    match start.text with
    | some text => run text
    | none =>
      if isInput then
        match ← Run.readAll 0 with
        | .ok bytes => run (ByteText.ofBytes bytes)
        | .error _ => return 0
      else
        let path := start.arguments.headD ""
        match ← Run.readFile path with
        | .ok bytes => run (ByteText.ofBytes bytes)
        | .error code => do
          Run.print 2 (own ++ ": 0: " ++ openFailure .read path code ++ "\n")
          return failureStatus

end Runbook.Shell
