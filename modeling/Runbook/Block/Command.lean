import Runbook.Block.Refusal
/-!
# Command blocks

A command block has one shell command on each line that is not blank. Its fields say where the
commands run, how long each may take and how the transcript looks. `transcript` is what the block
shows: each command after the prompt, and below it what the command printed.
-/

set_option autoImplicit false

namespace Runbook.Block

open Arguments Number Text

/-- A command block. -/
structure Command where
  lines : List String
  /-- The directory, below that of the document. -/
  cwd : Option String
  hidden : Bool
  /-- The language of the transcript. -/
  lang : String
  prompt : String
  showOutput : Bool
  /-- How long each command may take. -/
  timeout : Option Duration
deriving DecidableEq, Repr

namespace Command

/-- The fields of a command block. -/
def schema : Schema := [
  .optional "cwd" .text,
  .withDefault "hidden" .flag "false",
  .withDefault "lang" .text "console",
  .withDefault "prompt" .text "$",
  .withDefault "output" .flag "true",
  .optional "timeout" .number]

/-- The commands of a body, without blanks at their ends. -/
def commands (body : String) : List String :=
  ((contentLines body.toList).map (dropTrailing isBlank)).filterMap fun line =>
    if line.isEmpty then none else some (String.ofList line)

/-- The command block with some arguments and a body. -/
def parse (arguments body : String) : Except Refusal Command := do
  let given ← (Arguments.parse schema arguments).mapError .arguments
  let lines := commands body
  if lines.isEmpty then throw .noCommands
  let timeout ← (span? given "timeout").mapError .field
  return {
    lines
    cwd := given.text? "cwd"
    hidden := given.flag "hidden"
    lang := (given.text? "lang").getD "console"
    prompt := (given.text? "prompt").getD "$"
    showOutput := given.flag "output"
    timeout }

/-- What a text is shown as below its command: a line that lacks its newline gets one. -/
def closedOutput (output : String) : String :=
  if output.isEmpty || output.toList.getLast? = some '\n' then output else output ++ "\n"

/-- What one command shows: the prompt, the command and, when output is on, what it printed. -/
def entry (block : Command) (line output : String) : String :=
  block.prompt ++ " " ++ line ++ "\n" ++ if block.showOutput then closedOutput output else ""

/-- What commands and their outputs show together. -/
def transcript (block : Command) (runs : List (String × String)) : String :=
  String.join (runs.map fun run => block.entry run.1 run.2)

end Command

end Runbook.Block
