import Runbook.Shell.Reader
/-!
# Reading commands of the shell

The grammar of commands. A script is read one complete line at a time, so the lines before one that
cannot be read are run. `readLine?` reads such a line; a line may contain commands that go on over
several lines of the text.
-/

set_option autoImplicit false

namespace Runbook.Shell

open Read

/-! ### Small parts -/

/-- Stops at a token that cannot stand where it does. -/
def refuse {α : Type} (token : Token) : Read α := fail (.unexpected token.name none)

/-- Stops at a token that stands instead of another one. -/
def refuseFor {α : Type} (token expected : Token) : Read α :=
  fail (.unexpected token.name (some expected.name))

/-- Whether a token is a keyword. -/
def Token.isKeyword (token : Token) (name : String) : Bool :=
  match token with
  | .keyword found => found = name
  | _ => false

/-- Whether a token is a sign. -/
def Token.isSign (token : Token) (text : String) : Bool :=
  match token with
  | .sign found => found = text
  | _ => false

/-- Whether a list of commands ends at a token. -/
def Token.endsList : Token → Bool
  | .ending => true
  | .sign text => text ∈ [")", ";;"]
  | .keyword name => name ∈ ["do", "done", "elif", "else", "esac", "fi", "then", "\x7d"]
  | _ => false

/-- The text of a word without its quotes, and whether there were any. -/
def bareText : Word → String × Bool
  | [] => ("", false)
  | piece :: rest =>
    let (text, quoted) := bareText rest
    match piece with
    | .plain first => (first ++ text, quoted)
    | .quoted first => (first ++ text, true)
    | .double pieces =>
      (String.join (pieces.map fun
        | .quoted text => text
        | .plain text => text
        | _ => "") ++ text, true)
    | _ => (text, quoted)

/-- A word as the assignment of a value to a variable. -/
def asAssignment? : Word → Option (String × Word)
  | .plain text :: rest =>
    let name := text.toList.takeWhile (· != '=')
    let value := (text.toList.dropWhile (· != '=')).drop 1
    if isName (String.ofList name) && name.length < text.length then
      some (String.ofList name,
        if value = [] then rest else .plain (String.ofList value) :: rest)
    else none
  | _ => none

/-- The special commands of the shell, whose names no function can have. -/
def specialNames : List String :=
  [".", ":", "break", "continue", "eval", "exec", "exit", "export", "local", "readonly", "return",
    "set", "shift", "times", "trap", "unset"]

/-- What a sign of a redirection does to a file. -/
def fileUse? : String → Option FileUse
  | "<" => some .read
  | ">" => some .write
  | ">|" => some .overwrite
  | ">>" => some .append
  | "<>" => some .readWrite
  | _ => none

/-- The descriptor of a redirection that names none. -/
def usualDescriptor (sign : String) : Nat := if sign.toList.head? = some '<' then 0 else 1

/-- A redirection by its sign and the word after it. -/
def redirectionOf (descriptor : Nat) (sign : String) (word : Word) : Read Redirection :=
  match fileUse? sign with
  | some usage => return .file descriptor usage word
  | none =>
    if sign = "<&" || sign = ">&" then return .copy descriptor word
    else do
      let (ending, verbatim) := bareText word
      let input ← get
      let awaited : AwaitedDocument := ⟨input.nextDocument, ending, sign = "<<-", verbatim⟩
      set { input with
        awaited := input.awaited ++ [awaited], nextDocument := input.nextDocument + 1 }
      return .here descriptor awaited.number

/-- Reads the word of a redirection. -/
def readRedirection (nested : Read Command) (descriptor : Option Nat) (sign : String) :
    Read Redirection := do
  match ← nextToken nested false false with
  | .word word => redirectionOf (descriptor.getD (usualDescriptor sign)) sign word
  | token => refuse token

/-- Reads redirections that follow a command. -/
def readRedirections (nested : Read Command) : Nat → List Redirection → Read (List Redirection)
  | 0, done => return done.reverse
  | fuel + 1, done => do
    match ← nextToken nested false true with
    | .redirection descriptor sign =>
      let redirection ← readRedirection nested descriptor sign
      readRedirections nested fuel (redirection :: done)
    | token => do
      pushBack token
      return done.reverse

/-- Reads the words of a loop, up to the end of its first line. -/
def readWords (nested : Read Command) : Nat → List Word → Read (List Word)
  | 0, done => return done.reverse
  | fuel + 1, done => do
    match ← nextToken nested false false with
    | .word word => readWords nested fuel (word :: done)
    | .newline => return done.reverse
    | token => if token.isSign ";" then return done.reverse else refuse token

/-- Reads the patterns of an arm, of which the first token is given, up to the parenthesis. -/
def readPatterns (nested : Read Command) : Nat → Token → List Word → Read (List Word)
  | 0, _, done => return done.reverse
  | fuel + 1, token, done => do
    let word := match token with
      | .word word => word
      | .keyword name => [Piece.plain name]
      | _ => []
    let next ← nextToken nested false false
    if next.isSign "|" then do
      let first ← nextToken nested false false
      readPatterns nested fuel first (word :: done)
    else if next.isSign ")" then return (word :: done).reverse
    else refuseFor next (.sign ")")

/-! ### Commands -/

/-- Where a list of commands stands. -/
inductive Place where
  /-- At the top of a script, up to the end of the line. -/
  | line
  /-- In another command, where it must not be empty. -/
  | nested
  /-- In an arm of a choice, where it may be empty. -/
  | arm
deriving DecidableEq, Repr

mutual

/-- Reads a list of commands after those that have been read. The result is `none` at the end of a
script. -/
def readList (place : Place) : Nat → Option Command → Bool → Read (Option Command)
  | 0, done, _ => return done
  | fuel + 1, done, mayEnd => do
    let nested := readSubstitution fuel
    let token ← nextToken nested (place != .line) true
    match token with
    | .newline => return some (done.getD .empty)
    | .ending => do
      pushBack token
      return if place = .line then done else some (done.getD .empty)
    | _ =>
      pushBack token
      if mayEnd && place != .line && token.endsList then return some (done.getD .empty)
      else do
        let first ← readAndOr fuel none
        let next ← nextToken nested false false
        let command := if next.isSign "&" then Command.background first else first
        let all := match done with
          | none => command
          | some before => .sequence before command
        match next with
        | .ending => do
          pushBack next
          return some all
        | .newline => do
          pushBack next
          readList place fuel (some all) true
        | _ =>
          if next.isSign "&" || next.isSign ";" then readList place fuel (some all) true
          else if place = .line then refuse next
          else do
            pushBack next
            return some all
termination_by structural fuel => fuel

/-- Reads a command up to a closing parenthesis, for an expansion. -/
def readSubstitution : Nat → Read Command
  | 0 => return .empty
  | fuel + 1 => do
    let before ← get
    set { before with pushed := none, awaited := [] }
    let command ← readList .nested fuel none true
    let token ← nextToken (readSubstitution fuel) false true
    if token.isSign ")" then do
      modify fun input => { input with pushed := before.pushed, awaited := before.awaited }
      return command.getD .empty
    else refuseFor token (.sign ")")
termination_by structural fuel => fuel

/-- Reads commands that are joined by `&&` and `||`, after those that have been read. -/
def readAndOr : Nat → Option (Command × Bool) → Read Command
  | 0, _ => return .empty
  | fuel + 1, before => do
    let pipeline ← readPipeline fuel (before.isSome)
    let joined := match before with
      | none => pipeline
      | some (first, true) => .both first pipeline
      | some (first, false) => .either first pipeline
    let next ← nextToken (readSubstitution fuel) false false
    if next.isSign "&&" then readAndOr fuel (some (joined, true))
    else if next.isSign "||" then readAndOr fuel (some (joined, false))
    else do
      pushBack next
      return joined
termination_by structural fuel => fuel

/-- Reads a pipeline. -/
def readPipeline : Nat → Bool → Read Command
  | 0, _ => return .empty
  | fuel + 1, skipNewlines => do
    let token ← nextToken (readSubstitution fuel) skipNewlines true
    if token.isKeyword "!" then
      return .negated (← readStages fuel false [])
    else do
      pushBack token
      readStages fuel false []
termination_by structural fuel => fuel

/-- Reads the stages of a pipeline after those that have been read. -/
def readStages : Nat → Bool → List Command → Read Command
  | 0, _, _ => return .empty
  | fuel + 1, skipNewlines, done => do
    let stage ← readCommand fuel skipNewlines
    let next ← nextToken (readSubstitution fuel) false false
    if next.isSign "|" then readStages fuel true (stage :: done)
    else do
      pushBack next
      return if done.isEmpty then stage else .pipeline (stage :: done).reverse
termination_by structural fuel => fuel

/-- Reads a command. -/
def readCommand : Nat → Bool → Read Command
  | 0, _ => return .empty
  | fuel + 1, skipNewlines => do
    let nested := readSubstitution fuel
    let token ← nextToken nested skipNewlines true
    let line := (← get).line
    match token with
    | .word _ => do
      pushBack token
      readSimple fuel line [] [] []
    | .redirection _ _ => do
      pushBack token
      readSimple fuel line [] [] []
    | .keyword "if" => do
      let command ← readConditional fuel
      redirect fuel line command
    | .keyword "while" => readLoop fuel line false
    | .keyword "until" => readLoop fuel line true
    | .keyword "for" => do
      let command ← readForEach fuel line
      redirect fuel line command
    | .keyword "case" => do
      let command ← readChoice fuel line
      redirect fuel line command
    | .keyword "\x7b" => do
      let command ← readList .nested fuel none false
      expect fuel (.keyword "\x7d")
      redirect fuel line (command.getD .empty)
    | .sign "(" => do
      let command ← readList .nested fuel none false
      expect fuel (.sign ")")
      let redirections ← readRedirections nested fuel []
      return .subshell line (command.getD .empty) redirections
    | token => refuse token
termination_by structural fuel => fuel

/-- Reads a token that has to follow. -/
def expect : Nat → Token → Read Unit
  | 0, _ => return
  | fuel + 1, expected => do
    let token ← nextToken (readSubstitution fuel) false true
    if token.name = expected.name then return else refuseFor token expected
termination_by structural fuel => fuel

/-- Reads the redirections of a command. -/
def redirect : Nat → Nat → Command → Read Command
  | 0, _, command => return command
  | fuel + 1, line, command => do
    let redirections ← readRedirections (readSubstitution fuel) fuel []
    return if redirections.isEmpty then command else .redirected line command redirections
termination_by structural fuel => fuel

/-- Reads a conditional after its first word. -/
def readConditional : Nat → Read Command
  | 0 => return .empty
  | fuel + 1 => do
    let test ← readList .nested fuel none false
    expect fuel (.keyword "then")
    let accepted ← readList .nested fuel none false
    let next ← nextToken (readSubstitution fuel) false true
    if next.isKeyword "elif" then
      let rejected ← readConditional fuel
      return .conditional (test.getD .empty) (accepted.getD .empty) rejected
    else if next.isKeyword "else" then do
      let rejected ← readList .nested fuel none false
      expect fuel (.keyword "fi")
      return .conditional (test.getD .empty) (accepted.getD .empty) (rejected.getD .empty)
    else if next.isKeyword "fi" then
      return .conditional (test.getD .empty) (accepted.getD .empty) .empty
    else refuseFor next (.keyword "fi")
termination_by structural fuel => fuel

/-- Reads a loop after its first word. -/
def readLoop : Nat → Nat → Bool → Read Command
  | 0, _, _ => return .empty
  | fuel + 1, line, untilTrue => do
    let test ← readList .nested fuel none false
    expect fuel (.keyword "do")
    let body ← readList .nested fuel none false
    expect fuel (.keyword "done")
    redirect fuel line (.loop untilTrue (test.getD .empty) (body.getD .empty))
termination_by structural fuel => fuel

/-- Reads a loop over words after its first word. -/
def readForEach : Nat → Nat → Read Command
  | 0, _ => return .empty
  | fuel + 1, line => do
    let nested := readSubstitution fuel
    let token ← nextToken nested false false
    let name := match token with
      | .word word => (plainText? word).getD ""
      | _ => ""
    if !isName name then fail .loopVariable
    else do
      let next ← nextToken nested true true
      let words ←
        if next.isKeyword "in" then pure (some (← readWords nested fuel []))
        else do
          if !next.isSign ";" then pushBack next
          pure none
      let opening ← nextToken nested true true
      if !opening.isKeyword "do" then refuseFor opening (.keyword "do")
      else do
        let body ← readList .nested fuel none false
        expect fuel (.keyword "done")
        return .forEach line name words (body.getD .empty)
termination_by structural fuel => fuel

/-- Reads a choice after its first word. -/
def readChoice : Nat → Nat → Read Command
  | 0, _ => return .empty
  | fuel + 1, line => do
    let nested := readSubstitution fuel
    match ← nextToken nested false false with
    | .word word => do
      let next ← nextToken nested true true
      if next.isKeyword "in" then return .choice line word (← readArms fuel [])
      else refuseFor next (.keyword "in")
    | token => refuseFor token (.word [])
termination_by structural fuel => fuel

/-- Reads the arms of a choice after those that have been read. -/
def readArms : Nat → List (List Word × Command) → Read (List (List Word × Command))
  | 0, done => return done.reverse
  | fuel + 1, done => do
    let nested := readSubstitution fuel
    let token ← nextToken nested true true
    if token.isKeyword "esac" then return done.reverse
    else do
      let first ← if token.isSign "(" then nextToken nested false false else pure token
      let patterns ← readPatterns nested fuel first []
      let body ← readList .arm fuel none true
      let arm := (patterns, body.getD .empty)
      let next ← nextToken nested true true
      if next.isKeyword "esac" then return (arm :: done).reverse
      else if next.isSign ";;" then readArms fuel (arm :: done)
      else refuseFor next (.sign ";;")
termination_by structural fuel => fuel

/-- Reads a simple command after the parts that have been read, or the definition of a function. -/
def readSimple : Nat → Nat → List (String × Word) → List Word → List Redirection → Read Command
  | 0, line, assignments, words, redirections =>
    return .simple line assignments.reverse words.reverse redirections.reverse
  | fuel + 1, line, assignments, words, redirections => do
    let nested := readSubstitution fuel
    match ← nextToken nested false false with
    | .word word =>
      match if words.isEmpty then asAssignment? word else none with
      | some assignment => readSimple fuel line (assignment :: assignments) words redirections
      | none => readSimple fuel line assignments (word :: words) redirections
    | .redirection descriptor sign => do
      let redirection ← readRedirection nested descriptor sign
      readSimple fuel line assignments words (redirection :: redirections)
    | token =>
      match words, token.isSign "(" && assignments.isEmpty && redirections.isEmpty with
      | [word], true => do
        let closing ← nextToken nested false false
        if !closing.isSign ")" then refuseFor closing (.sign ")")
        else do
          let name := (plainText? word).getD ""
          if !isName name || name ∈ specialNames then fail .functionName
          else return .define name (← readCommand fuel true)
      | _, _ => do
        pushBack token
        return .simple line assignments.reverse words.reverse redirections.reverse
termination_by structural fuel => fuel

end

/-- Reads a line of a script; `none` at its end. -/
def readLine? : Read (Option Command) := do
  readList .line (← get).fuel none false

end Runbook.Shell
