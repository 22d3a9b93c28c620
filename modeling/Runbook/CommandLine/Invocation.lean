import Runbook.Text.Line
/-!
# Invocations

What the words of a command line ask for. Options that hold for every command stand before its name
and its own options after it. An option may be spelled with its letter or its word; letters may
share one hyphen, and a value is attached or is the next word, which must not look like an option.
No option may be given twice.

The words are looked at one after the other, so the first that is wrong or that asks for help
decides. Only a value that is a word of its own is judged later, once the next option follows or the
words end.
-/

set_option autoImplicit false

namespace Runbook.CommandLine

open Text

/-! ### Commands -/

/-- What is to be done. -/
inductive Command where
  /-- Makes a new project, over what is there if that is wanted. -/
  | init (overwrite : Bool)
  /-- Runs all chapters and writes the finished ones. -/
  | build (outputDir : Option String) (jobs : Option Nat)
  /-- Checks all chapters without running anything. -/
  | check
deriving DecidableEq, Repr

/-- What a command line asks for. -/
structure Invocation where
  /-- The path of the settings file. -/
  settingsPath : String
  command : Command
deriving DecidableEq, Repr

/-- Why the words of a command line are no invocation. -/
inductive Ending where
  /-- They ask what the program is or can do. -/
  | told
  /-- They cannot be understood. -/
  | misused
deriving DecidableEq, Repr

/-! ### Options -/

/-- The options. -/
inductive Choice where
  | config
  | verbose
  | help
  | version
  | yes
  | output
  | jobs
deriving DecidableEq, Repr

namespace Choice

/-- The letter of an option. -/
def letter : Choice → Char
  | config => 'c'
  | verbose => 'v'
  | help => 'h'
  | version => 'V'
  | yes => 'y'
  | output => 'o'
  | jobs => 'j'

/-- The word of an option. -/
def word : Choice → String
  | config => "config"
  | verbose => "verbose"
  | help => "help"
  | version => "version"
  | yes => "yes"
  | output => "output"
  | jobs => "jobs"

/-- Whether an option has a value. -/
def hasValue : Choice → Bool
  | config | output | jobs => true
  | _ => false

/-- Whether an option asks what the program is or can do. -/
def asks : Choice → Bool
  | help | version => true
  | _ => false

end Choice

/-- The number that a text is, which may have a plus sign. -/
def count? (text : String) : Option Nat :=
  let digits := match text.toList with
    | '+' :: rest => rest
    | all => all
  if digits.isEmpty || !digits.all Char.isDigit then none
  else
    let n := digits.foldl (fun n d => 10 * n + (d.toNat - '0'.toNat)) 0
    if n < 0x10000000000000000 then some n else none

/-- Whether a value suits an option: a path is not empty, and a number is one. -/
def Choice.suits (choice : Choice) (value : String) : Bool :=
  match choice with
  | jobs => (count? value).isSome
  | _ => value ≠ ""

/-- The options before the name of a command. -/
def commonChoices : List Choice := [.config, .verbose, .help, .version]

/-! ### Words -/

/-- What a word of a command line looks like. -/
inductive Word where
  /-- Two dashes, after which no word is an option. -/
  | escape
  /-- An option by its word, and its attached value. -/
  | long (name : List Char) (value : Option String)
  /-- Options by their letters. -/
  | short (letters : List Char)
  | plain (text : String)
deriving DecidableEq, Repr

/-- What a word looks like. -/
def Word.of (text : String) : Word :=
  match text.toList with
  | ['-', '-'] => escape
  | '-' :: '-' :: rest =>
    let name := rest.takeWhile (· != '=')
    match rest.dropWhile (· != '=') with
    | [] => long name none
    | _ :: value => long name (some (String.ofList value))
  | '-' :: c :: rest => short (c :: rest)
  | _ => plain text

/-- What has been understood of the words so far. -/
structure Understood where
  /-- The options and their values, which are empty for those that have none. -/
  given : List (Choice × String)
  /-- Whether all values that were words of their own can be used. -/
  isSound : Bool
deriving DecidableEq, Repr

namespace Understood

/-- Nothing has been understood yet. -/
def nothing : Understood := ⟨[], true⟩

variable (understood : Understood)

/-- Whether an option is given. -/
def has (choice : Choice) : Bool := understood.given.any fun entry => entry.1 = choice

/-- The value of an option. -/
def value? (choice : Choice) : Option String := understood.given.lookup choice

/-- One option more, with its attached value. -/
def take (choice : Choice) (value : String) : Except Ending Understood :=
  if !understood.isSound then .error .misused
  else if choice.asks then .error .told
  else if understood.has choice || (choice.hasValue && !choice.suits value) then .error .misused
  else .ok { understood with given := (choice, value) :: understood.given }

/-- One option more, whose value is a word of its own. -/
def takeApart (choice : Choice) (value : String) : Except Ending Understood :=
  if !understood.isSound then .error .misused
  else
    .ok {
      given := (choice, value) :: understood.given
      isSound := !understood.has choice && choice.suits value }

/-- Options by their letters: what is understood, and the option whose value is still to come. -/
def takeLetters (choices : List Choice) :
    Understood → List Char → Except Ending (Understood × Option Choice)
  | understood, [] => .ok (understood, none)
  | understood, letter :: letters =>
    match choices.find? fun choice => choice.letter = letter with
    | none => .error .misused
    | some choice =>
      if choice.hasValue then
        match letters with
        | [] => .ok (understood, some choice)
        | '=' :: value => (understood.take choice (String.ofList value)).map (·, none)
        | value => (understood.take choice (String.ofList value)).map (·, none)
      else
        match understood.take choice "" with
        | .error ending => .error ending
        | .ok understood => takeLetters choices understood letters

/-- An option by its word: what is understood, and the option whose value is still to come. -/
def takeWord (choices : List Choice) (name : List Char) (value : Option String) :
    Except Ending (Understood × Option Choice) :=
  match choices.find? fun choice => choice.word.toList = name with
  | none => .error .misused
  | some choice =>
    match choice.hasValue, value with
    | true, some value => (understood.take choice value).map (·, none)
    | true, none => .ok (understood, some choice)
    | false, some _ => .error .misused
    | false, none => (understood.take choice "").map (·, none)

end Understood

/-- The words of options up to the name of a command: what is understood, and the name with the
words after it. -/
def options (choices : List Choice) : Understood → List String →
    Except Ending (Understood × Option (String × List String))
  | understood, [] => .ok (understood, none)
  | understood, word :: words =>
    let taken : Except Ending (Understood × Option Choice) :=
      match Word.of word with
      | .long name value => understood.takeWord choices name value
      | .short letters => understood.takeLetters choices letters
      | _ => .ok (understood, none)
    match Word.of word with
    | .escape => if words.isEmpty then .ok (understood, none) else .error .misused
    | .plain name => .ok (understood, some (name, words))
    | _ =>
      match taken with
      | .error ending => .error ending
      | .ok (understood, none) => options choices understood words
      | .ok (understood, some choice) =>
        match words with
        | [] => .error .misused
        | value :: words =>
          match Word.of value with
          | .plain _ =>
            match understood.takeApart choice value with
            | .error ending => .error ending
            | .ok understood => options choices understood words
          | _ => .error .misused

/-- The options of a command, after which nothing may follow. -/
def ownOptions (choices : List Choice) (words : List String) : Except Ending Understood :=
  match options choices .nothing words with
  | .error ending => .error ending
  | .ok (_, some _) => .error .misused
  | .ok (understood, none) => if understood.isSound then .ok understood else .error .misused

/-- The names of the commands, help being one. -/
def commandNames : List String := ["init", "build", "check", "help"]

/-- The command with a name and the words after it. -/
def Command.ofWords (name : String) (words : List String) : Except Ending Command :=
  match name with
  | "init" => (ownOptions [.yes, .help] words).map fun own => init (own.has .yes)
  | "build" =>
    (ownOptions [.output, .jobs, .help] words).map fun own =>
      build (own.value? .output) ((own.value? .jobs).bind count?)
  | "check" => (ownOptions [.help] words).map fun _ => check
  | "help" =>
    .error (match words with
      | [] => .told
      | [about] => if about ∈ commandNames then .told else .misused
      | _ => .misused)
  | _ => .error .misused

/-- What the words of a command line ask for. -/
def Invocation.parse (words : List String) : Except Ending Invocation :=
  match options commonChoices .nothing words with
  | .error ending => .error ending
  | .ok (_, none) => .error .misused
  | .ok (common, some (name, words)) =>
    match Command.ofWords name words with
    | .error ending => .error ending
    | .ok command =>
      if common.isSound then .ok ⟨(common.value? .config).getD "galley.toml", command⟩
      else .error .misused

end Runbook.CommandLine
