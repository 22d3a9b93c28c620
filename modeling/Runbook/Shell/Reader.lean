import Runbook.Shell.Command
import Runbook.Shell.Name
/-!
# Reading words of the shell

A script is read token by token. A word is taken apart while it is read: quotes are resolved, and
the expansions in it become parts of their own. Reading a command that stands inside a word is left
to the grammar, which is given as `nested`.

All functions that read on have a bound on the number of steps; `Input.fuel` is enough for the text
that is left.
-/

set_option autoImplicit false

namespace Runbook.Shell

/-! ### Faults -/

/-- What is wrong with a script. -/
inductive Fault where
  /-- Something stands where it cannot, perhaps instead of something else. -/
  | unexpected (found : String) (expected : Option String)
  | openQuote
  | openBackquote
  | openBrace
  | openArithmetic
  | loopVariable
  | functionName
  | descriptor
deriving DecidableEq, Repr

/-- The wording of a fault. -/
def Fault.message : Fault → String
  | unexpected found none => found ++ " unexpected"
  | unexpected found (some expected) => found ++ " unexpected (expecting " ++ expected ++ ")"
  | openQuote => "Unterminated quoted string"
  | openBackquote => "EOF in backquote substitution"
  | openBrace => "Missing '\x7d'"
  | openArithmetic => "Missing '))'"
  | loopVariable => "Bad for loop variable"
  | functionName => "Bad function name"
  | descriptor => "Bad fd number"

/-- A fault and the line on which it is found. -/
structure Misreading where
  line : Nat
  fault : Fault
deriving DecidableEq, Repr

/-! ### Tokens -/

/-- A token. -/
inductive Token where
  | word (word : Word)
  /-- A word that means something where it stands. -/
  | keyword (name : String)
  /-- A sign other than those of redirections. -/
  | sign (text : String)
  /-- The sign of a redirection, after the number of a descriptor. -/
  | redirection (descriptor : Option Nat) (sign : String)
  | newline
  | ending

/-- How a token is called in a fault. -/
def Token.name : Token → String
  | .word _ => "word"
  | .keyword name => "\"" ++ name ++ "\""
  | .sign text => "\"" ++ text ++ "\""
  | .redirection _ _ => "redirection"
  | .newline => "newline"
  | .ending => "end of file"

/-- The words that may mean something. -/
def keywords : List String :=
  ["!", "case", "do", "done", "elif", "else", "esac", "fi", "for", "if", "in", "then", "until",
    "while", "\x7b", "\x7d"]

/-! ### Input -/

/-- A here-document that is still to be read. -/
structure AwaitedDocument where
  number : Nat
  /-- The line that ends it. -/
  ending : String
  /-- Whether tabs at the start of lines are dropped. -/
  dropTabs : Bool
  /-- Whether its text stands for itself. -/
  verbatim : Bool
deriving DecidableEq, Repr

/-- What is left of a script, and what is known about what has been read. -/
structure Input where
  rest : List Char
  line : Nat
  /-- A token that is to be read again. -/
  pushed : Option Token
  awaited : List AwaitedDocument
  /-- The here-documents that have been read. -/
  documents : List (Nat × Word)
  nextDocument : Nat

/-- A bound on the steps in which the rest of a script can be read. -/
def Input.fuel (input : Input) : Nat := 16 * input.rest.length + 64

/-- A script at its start. -/
def Input.ofText (text : List Char) (firstDocument : Nat) : Input :=
  ⟨text, 1, none, [], [], firstDocument⟩

/-- Something that is read. -/
abbrev Read (α : Type) := StateT Input (Except Misreading) α

namespace Read

variable {α : Type}

/-- Stops at a fault. -/
def fail (fault : Fault) : Read α := do
  throw ⟨(← get).line, fault⟩

/-- The next character, which stays. -/
def look : Read (Option Char) := do
  return (← get).rest.head?

/-- Leaves some characters behind. -/
def skip (count : Nat) : Read Unit :=
  modify fun input =>
    { input with
      line := input.line + (input.rest.take count).count '\n'
      rest := input.rest.drop count }

/-- Leaves some characters behind without counting lines. -/
def pass (count : Nat) : Read Unit :=
  modify fun input => { input with rest := input.rest.drop count }

/-- Reads the characters that have a property. -/
def takeWhile (p : Char → Bool) : Read String := do
  let taken := (← get).rest.takeWhile p
  skip taken.length
  return String.ofList taken

end Read

open Read

/-! ### Characters -/

/-- Whether a character ends a word. -/
def endsWord (c : Char) : Bool := c ∈ [' ', '\t', '\n', ';', '&', '|', '<', '>', '(', ')']

/-- Parameters with a name of one sign. -/
def isSpecialParameter (c : Char) : Bool := c ∈ ['@', '*', '#', '?', '-', '$', '!']

/-- A word with a part put before it. -/
def addPiece (piece : Piece) (word : Word) : Word :=
  match piece, word with
  | .plain text, .plain more :: rest => .plain (text ++ more) :: rest
  | .quoted text, .quoted more :: rest => .quoted (text ++ more) :: rest
  | piece, word => piece :: word

/-- Parts that are given in reverse, as a word. -/
def wordOf (reversed : List Piece) : Word :=
  reversed.foldl (fun word piece => addPiece piece word) []

/-! ### Quotes -/

/-- Reads what stands between single quotes, after the first one. -/
def readSingle : Read Piece := do
  let text ← takeWhile (· != '\'')
  if (← look).isNone then fail .openQuote
  skip 1
  return .quoted text

/-- What is left of a text between backquotes when its backslashes are resolved. -/
def unescapeBackquoted (quoted : Bool) : List Char → List Char
  | '\\' :: c :: rest =>
    if c ∈ ['\\', '`', '$'] || (quoted && c = '"') then c :: unescapeBackquoted quoted rest
    else '\\' :: c :: unescapeBackquoted quoted rest
  | c :: rest => c :: unescapeBackquoted quoted rest
  | [] => []

/-- The number of characters before the backquote that ends a text. -/
def backquotedLength? : List Char → Option Nat
  | [] => none
  | '`' :: _ => some 0
  | '\\' :: _ :: rest => (backquotedLength? rest).map (· + 2)
  | _ :: rest => (backquotedLength? rest).map (· + 1)

/-- Reads a command between backquotes, after the first one. -/
def readBackquoted (nested : Read Command) (quoted : Bool) : Read Piece := do
  let input ← get
  match backquotedLength? input.rest with
  | none => do
    skip input.rest.length
    fail .openBackquote
  | some length =>
    let text := unescapeBackquoted quoted (input.rest.take length)
    let after := { input with
      rest := input.rest.drop (length + 1)
      line := input.line + (input.rest.take length).count '\n' }
    set { input with rest := text ++ ['\n', ')'] }
    let command ← nested
    modify fun inner =>
      { after with documents := inner.documents, nextDocument := inner.nextDocument }
    return .output command

/-- Reads the name of a parameter. -/
def readParameterName : Read String := do
  match ← look with
  | none => return ""
  | some c =>
    if isNameStart c then takeWhile isNameChar
    else if c.isDigit then takeWhile Char.isDigit
    else if isSpecialParameter c then do
      skip 1
      return c.toString
    else return ""

/-- What a backslash before a character stands for between double quotes. -/
def escapedInDouble (inBraces : Bool) (c : Char) : Option Piece :=
  if c = '\n' then some (.quoted "")
  else if c ∈ ['$', '`', '"', '\\'] || (inBraces && c = '\x7d') then some (.quoted c.toString)
  else none

/-! ### Expansions -/

/-- What is asked about a parameter by a sign before a word. -/
def formOf (sign : Char) (empty : Bool) (word : Word) : Form :=
  match sign with
  | '-' => .orElse empty word
  | '=' => .orAssign empty word
  | '?' => .orFail empty word
  | _ => .ifSet empty word

/-- Where a text between double quotes, or one that is read like it, ends. -/
inductive Until where
  /-- At a double quote. -/
  | quote
  /-- At the end of the input. -/
  | ending
  /-- At two closing parentheses. -/
  | parentheses
deriving DecidableEq, Repr

mutual

/-- Reads text in which only backslashes, dollar signs and backquotes mean something, up to its end.
`depth` is the number of open parentheses. -/
def readDouble (nested : Read Command) (stop : Until) :
    Nat → Nat → List Piece → Read Word
  | 0, _, done => return wordOf done
  | fuel + 1, depth, done => do
    match (← get).rest with
    | [] =>
      match stop with
      | .quote => fail .openQuote
      | .ending => return wordOf done
      | .parentheses => fail .openArithmetic
    | '\\' :: c :: _ =>
      match escapedInDouble false c with
      | some piece => do
        if stop = .ending && c = '"' then
          skip 2
          readDouble nested stop fuel depth (.quoted "\\\"" :: done)
        else
          skip 2
          readDouble nested stop fuel depth (piece :: done)
      | none => do
        skip 1
        readDouble nested stop fuel depth (.quoted "\\" :: done)
    | '"' :: _ =>
      if stop = .quote then do
        skip 1
        return wordOf done
      else do
        skip 1
        readDouble nested stop fuel depth
          (if stop = .ending then .quoted "\"" :: done else done)
    | '`' :: _ => do
      skip 1
      let piece ← readBackquoted nested (stop = .quote)
      readDouble nested stop fuel depth (piece :: done)
    | '$' :: _ => do
      skip 1
      let piece ← readDollar nested true fuel
      readDouble nested stop fuel depth (piece :: done)
    | ')' :: rest =>
      if stop = .parentheses && depth = 0 && rest.head? = some ')' then do
        skip 2
        return wordOf done
      else do
        skip 1
        readDouble nested stop fuel (depth - 1) (.quoted ")" :: done)
    | '(' :: _ => do
      skip 1
      readDouble nested stop fuel (depth + 1) (.quoted "(" :: done)
    | c :: _ => do
      skip 1
      readDouble nested stop fuel depth (.quoted c.toString :: done)

/-- Reads what follows a dollar sign. -/
def readDollar (nested : Read Command) (quoted : Bool) : Nat → Read Piece
  | 0 => return .plain "$"
  | fuel + 1 => do
    match (← get).rest with
    | '(' :: '(' :: _ => do
      skip 2
      return .arithmetic (← readDouble nested .parentheses fuel 0 [])
    | '(' :: _ => do
      skip 1
      return .output (← nested)
    | '\x7b' :: _ => do
      skip 1
      readBraces nested quoted fuel
    | _ => do
      let name ←
        match ← look with
        | some c =>
          if c.isDigit then do
            skip 1
            pure c.toString
          else readParameterName
        | none => pure ""
      return if name = "" then (if quoted then .quoted "$" else .plain "$")
        else .parameter name .value

/-- Reads a parameter between braces, after the first one. -/
def readBraces (nested : Read Command) (quoted : Bool) : Nat → Read Piece
  | 0 => return .parameter "" .malformed
  | fuel + 1 => do
    match (← get).rest with
    | '#' :: '\x7d' :: _ => do
      skip 2
      return .parameter "#" .value
    | '#' :: _ => do
      let before ← get
      skip 1
      let name ← readParameterName
      if name != "" && (← look) = some '\x7d' then do
        skip 1
        return .parameter name .length
      else do
        set before
        skip 1
        readForm nested quoted "#" fuel
    | _ => do
      let name ← readParameterName
      readForm nested quoted name fuel

/-- Reads what follows the name of a parameter between braces. -/
def readForm (nested : Read Command) (quoted : Bool) (name : String) : Nat → Read Piece
  | 0 => return .parameter name .malformed
  | fuel + 1 => do
    match (← get).rest with
    | '\x7d' :: _ => do
      skip 1
      return .parameter name (if name = "" then .malformed else .value)
    | ':' :: c :: _ => do
      pass 2
      let word ← readBraceWord nested quoted fuel []
      return .parameter name
        (if c ∈ ['-', '=', '?', '+'] then formOf c true word else .malformed)
    | '%' :: '%' :: _ => do
      skip 2
      return .parameter name (.withoutEnd true (← readBraceWord nested false fuel []))
    | '%' :: _ => do
      skip 1
      return .parameter name (.withoutEnd false (← readBraceWord nested false fuel []))
    | '#' :: '#' :: _ => do
      skip 2
      return .parameter name (.withoutStart true (← readBraceWord nested false fuel []))
    | '#' :: _ => do
      skip 1
      return .parameter name (.withoutStart false (← readBraceWord nested false fuel []))
    | c :: _ => do
      pass 1
      let word ← readBraceWord nested quoted fuel []
      return .parameter name
        (if c ∈ ['-', '=', '?', '+'] && name != "" then formOf c false word else .malformed)
    | [] => fail .openBrace

/-- Reads a word up to a closing brace. -/
def readBraceWord (nested : Read Command) (quoted : Bool) : Nat → List Piece → Read Word
  | 0, done => return wordOf done
  | fuel + 1, done => do
    match (← get).rest with
    | [] => if quoted then fail .openQuote else fail .openBrace
    | '\x7d' :: _ => do
      skip 1
      return wordOf done
    | '\\' :: c :: _ =>
      if quoted then
        match escapedInDouble true c with
        | some piece => do
          skip 2
          readBraceWord nested quoted fuel (piece :: done)
        | none => do
          skip 1
          readBraceWord nested quoted fuel (.quoted "\\" :: done)
      else do
        skip 2
        readBraceWord nested quoted fuel
          (.quoted (if c = '\n' then "" else c.toString) :: done)
    | '\'' :: _ => do
      skip 1
      if quoted then readBraceWord nested quoted fuel (.quoted "'" :: done)
      else do
        let piece ← readSingle
        readBraceWord nested quoted fuel (piece :: done)
    | '"' :: _ => do
      skip 1
      let word ← readDouble nested .quote fuel 0 []
      readBraceWord nested quoted fuel (.double word :: done)
    | '`' :: _ => do
      skip 1
      let piece ← readBackquoted nested quoted
      readBraceWord nested quoted fuel (piece :: done)
    | '$' :: _ => do
      skip 1
      let piece ← readDollar nested quoted fuel
      readBraceWord nested quoted fuel (piece :: done)
    | c :: _ => do
      skip 1
      readBraceWord nested quoted fuel
        ((if quoted then .quoted c.toString else .plain c.toString) :: done)

end

/-! ### Words and tokens -/

/-- Reads a word. -/
def readWord (nested : Read Command) : Nat → List Piece → Read Word
  | 0, done => return wordOf done
  | fuel + 1, done => do
    match (← get).rest with
    | [] => return wordOf done
    | '\\' :: '\n' :: _ => do
      skip 2
      readWord nested fuel done
    | '\\' :: c :: _ => do
      skip 2
      readWord nested fuel (.quoted c.toString :: done)
    | '\\' :: [] => do
      skip 1
      readWord nested fuel (.quoted "\\" :: done)
    | '\'' :: _ => do
      skip 1
      let piece ← readSingle
      readWord nested fuel (piece :: done)
    | '"' :: _ => do
      skip 1
      let word ← readDouble nested .quote fuel 0 []
      readWord nested fuel (.double word :: done)
    | '`' :: _ => do
      skip 1
      let piece ← readBackquoted nested false
      readWord nested fuel (piece :: done)
    | '$' :: _ => do
      skip 1
      let piece ← readDollar nested false fuel
      readWord nested fuel (piece :: done)
    | c :: _ =>
      if endsWord c then return wordOf done
      else do
        skip 1
        readWord nested fuel (.plain c.toString :: done)

/-- Leaves blanks, continued lines and a comment behind. -/
def skipBlanks : Nat → Read Unit
  | 0 => return
  | fuel + 1 => do
    match (← get).rest with
    | '\\' :: '\n' :: _ => do
      skip 2
      skipBlanks fuel
    | '#' :: _ => do
      let _ ← takeWhile (· != '\n')
    | c :: _ =>
      if isBlank c then do
        skip 1
        skipBlanks fuel
      else return
    | [] => return

/-- The signs that are tokens, longer ones first. -/
def signs : List String := ["&&", "||", ";;", "&", "|", ";", "(", ")"]

/-- The signs of redirections, longer ones first. -/
def redirectionSigns : List String := ["<<-", "<<", "<&", "<>", ">>", ">&", ">|", "<", ">"]

/-- Reads a sign of some that the rest starts with. -/
def readSign? (candidates : List String) : Read (Option String) := do
  let rest := (← get).rest
  match candidates.find? fun sign => sign.toList.isPrefixOf rest with
  | none => return none
  | some sign =>
    skip sign.length
    return some sign

/-- Reads the text of a here-document: its lines up to the one that ends it. -/
def takeDocument (awaited : AwaitedDocument) : Nat → List String → Read String
  | 0, lines => return "".intercalate lines.reverse
  | fuel + 1, lines => do
    if (← look).isNone then return "".intercalate lines.reverse
    else
      let line ← takeWhile (· != '\n')
      let hasNewline := (← look).isSome
      skip 1
      let line := if awaited.dropTabs then
          String.ofList (line.toList.dropWhile (· = '\t')) else line
      if line = awaited.ending then return "".intercalate lines.reverse
      else takeDocument awaited fuel ((if hasNewline then line ++ "\n" else line) :: lines)

/-- Reads a here-document. -/
def readDocument (nested : Read Command) (awaited : AwaitedDocument) : Read Unit := do
  let text ← takeDocument awaited (← get).fuel []
  let word ←
    if awaited.verbatim then pure [.quoted text]
    else do
      let input ← get
      set { input with rest := text.toList }
      let word ← readDouble nested .ending (16 * text.length + 64) 0 []
      modify fun inner => { inner with rest := input.rest, line := input.line }
      pure word
  modify fun input => { input with documents := (awaited.number, word) :: input.documents }

/-- Reads here-documents. -/
def readDocuments (nested : Read Command) : List AwaitedDocument → Read Unit
  | [] => return
  | awaited :: rest => do
    readDocument nested awaited
    readDocuments nested rest

/-- Reads the here-documents that are awaited. -/
def readAwaited (nested : Read Command) : Read Unit := do
  let awaited := (← get).awaited
  modify fun input => { input with awaited := [] }
  readDocuments nested awaited

/-- Reads a token. -/
def readToken (nested : Read Command) : Read Token := do
  skipBlanks (← get).fuel
  match ← look with
  | none => return .ending
  | some '\n' =>
    skip 1
    readAwaited nested
    return .newline
  | some _ =>
    match ← readSign? signs with
    | some sign => return .sign sign
    | none =>
      match ← readSign? redirectionSigns with
      | some sign => return .redirection none sign
      | none =>
        let word ← readWord nested (← get).fuel []
        let next ← look
        match plainText? word with
        | some text =>
          if text.length = 1 && text.toList.all Char.isDigit && (next = some '<' || next = some '>')
          then
            match ← readSign? redirectionSigns with
            | some sign => return .redirection text.toNat? sign
            | none => return .word word
          else return .word word
        | none => return .word word

/-- A word that means something, as a keyword. -/
def Token.asKeyword : Token → Token
  | .word parts =>
    match plainText? parts with
    | some text => if text ∈ keywords then .keyword text else .word parts
    | none => .word parts
  | token => token

/-- Reads the next token. Newlines may be left behind first, and a keyword may be looked for. -/
def nextToken (nested : Read Command) (skipNewlines findKeywords : Bool) : Read Token := do
  let rec go : Nat → Read Token
    | 0 => return .ending
    | fuel + 1 => do
      let input ← get
      let token ← match input.pushed with
        | some token => do
          set { input with pushed := none }
          pure token
        | none => readToken nested
      match token with
      | .newline => if skipNewlines then go fuel else return .newline
      | token => return if findKeywords then token.asKeyword else token
  go (← get).fuel

/-- Has a token read again. -/
def pushBack (token : Token) : Read Unit :=
  modify fun input => { input with pushed := some token }

end Runbook.Shell
