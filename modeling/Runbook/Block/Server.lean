import Runbook.Block.Refusal
/-!
# Server blocks

One block starts a server and another one stops it. The two agree on the name of the server, which
is the command itself unless a field gives another.
-/

set_option autoImplicit false

namespace Runbook.Block

open Arguments Number Text

/-- A block that starts a server. -/
structure StartServer where
  name : String
  command : String
  /-- What the server prints once it is ready. -/
  expect : Option String
  /-- How long the server may take to be ready. -/
  timeout : Duration
  /-- The directory, below that of the document. -/
  cwd : Option String
  hidden : Bool
deriving DecidableEq, Repr

namespace StartServer

/-- The fields of a block that starts a server. -/
def schema : Schema := [
  .optional "name" .text,
  .optional "expect" .text,
  .withDefault "timeout" .number "30",
  .optional "cwd" .text,
  .withDefault "hidden" .flag "false"]

/-- The block with some arguments and a body. -/
def parse (arguments body : String) : Except Refusal StartServer := do
  let given ← (Arguments.parse schema arguments).mapError .arguments
  let command := trim body
  if command.isEmpty then throw .noServerCommand
  let timeout ← (span? given "timeout").mapError .field
  return {
    name := (given.text? "name").getD command
    command
    expect := given.text? "expect"
    timeout := timeout.getD (.ofWholeSeconds 30)
    cwd := given.text? "cwd"
    hidden := given.flag "hidden" }

end StartServer

/-- A block that stops a server. -/
structure StopServer where
  name : String
  /-- How long the server may take to end by itself. -/
  grace : Duration
deriving DecidableEq, Repr

namespace StopServer

/-- The fields of a block that stops a server. -/
def schema : Schema := [
  .optional "name" .text,
  .withDefault "grace" .number "5"]

/-- How long a server may take to end when no block says so. -/
def defaultGrace : Duration := .ofWholeSeconds 5

/-- The block with some arguments and a body. -/
def parse (arguments body : String) : Except Refusal StopServer := do
  let given ← (Arguments.parse schema arguments).mapError .arguments
  let name := (given.text? "name").getD (trim body)
  if name.isEmpty then throw .noServerName
  let grace ← (span? given "grace").mapError .field
  return { name, grace := grace.getD defaultGrace }

end StopServer

end Runbook.Block
