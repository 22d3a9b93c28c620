/-!
# Shell commands

What the text of a shell script says, as trees: words, whose parts are still to be expanded, and
commands, which are made of words. The text of a here-document comes after the line of the command
that it belongs to; a redirection names it by a number.
-/

set_option autoImplicit false

namespace Runbook.Shell

/-- What a redirection does to a file. -/
inductive FileUse where
  | read
  /-- Drops what the file holds and writes. -/
  | write
  /-- The same, even where files are to be kept. -/
  | overwrite
  /-- Writes to the end. -/
  | append
  | readWrite
deriving DecidableEq, Repr

mutual

/-- A part of a word. -/
inductive Piece where
  /-- Text outside quotes. -/
  | plain (text : String)
  /-- Text that stands for itself. -/
  | quoted (text : String)
  /-- What stands between double quotes. -/
  | double (pieces : List Piece)
  | parameter (name : String) (form : Form)
  /-- What a command prints. -/
  | output (command : Command)
  /-- The value of an expression. -/
  | arithmetic (pieces : List Piece)

/-- What is asked about a parameter. With `empty`, an empty value counts as none. -/
inductive Form where
  | value
  | length
  /-- A word instead of no value. -/
  | orElse (empty : Bool) (word : List Piece)
  /-- A word instead of no value, which becomes the value. -/
  | orAssign (empty : Bool) (word : List Piece)
  /-- An error instead of no value. -/
  | orFail (empty : Bool) (word : List Piece)
  /-- A word instead of a value. -/
  | ifSet (empty : Bool) (word : List Piece)
  /-- The value without its shortest or longest start that fits a pattern. -/
  | withoutStart (longest : Bool) (pattern : List Piece)
  /-- The value without its shortest or longest end that fits a pattern. -/
  | withoutEnd (longest : Bool) (pattern : List Piece)
  /-- Something that no shell understands. -/
  | malformed

/-- A change of what a command has open. -/
inductive Redirection where
  | file (descriptor : Nat) (usage : FileUse) (target : List Piece)
  /-- Makes a descriptor stand for what another one stands for, or closes it. -/
  | copy (descriptor : Nat) (target : List Piece)
  /-- Reads a here-document. -/
  | here (descriptor : Nat) (document : Nat)

/-- A command. -/
inductive Command where
  | empty
  | simple (line : Nat) (assignments : List (String × List Piece)) (words : List (List Piece))
    (redirections : List Redirection)
  | pipeline (stages : List Command)
  | negated (command : Command)
  | both (first second : Command)
  | either (first second : Command)
  | sequence (first second : Command)
  | background (command : Command)
  | subshell (line : Nat) (command : Command) (redirections : List Redirection)
  | redirected (line : Nat) (command : Command) (redirections : List Redirection)
  | conditional (test accepted rejected : Command)
  /-- Repeats a body while a test holds, or until it does. -/
  | loop (untilTrue : Bool) (test body : Command)
  /-- Repeats a body for each of some words, or for each argument. -/
  | forEach (line : Nat) (variableName : String) (words : Option (List (List Piece)))
      (body : Command)
  | choice (line : Nat) (word : List Piece) (arms : List (List (List Piece) × Command))
  | define (name : String) (body : Command)

end

/-- A word. -/
abbrev Word := List Piece

instance : Inhabited Command := ⟨.empty⟩

/-- The text of a word that is written without quotes or expansions. -/
def plainText? : Word → Option String
  | [.plain text] => some text
  | _ => none

end Runbook.Shell
