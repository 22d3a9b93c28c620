import Runbook.Block.Kind
import Runbook.Text.Blank
/-!
# Code blocks

A fenced code block has an info string and a body; one that was read from a source also has its
source text. The first word of the info string names its language or, when it starts with the
namespace and a colon, the kind of runnable block that it is: `runnable?` tells ordinary blocks
from runnable ones and refuses a word in the namespace that names no kind.
-/

set_option autoImplicit false

namespace Runbook.Document

open Runbook.Text

/-- A fenced code block. -/
structure CodeBlock where
  info : String
  body : String
  /-- The source text of the block, fences included, if it was read from a source. -/
  raw : Option String
deriving DecidableEq, Repr

/-- A code block that is to be run: its kind, the argument text after the tag, and its body. -/
structure Runnable where
  kind : Block.Kind
  arguments : String
  body : String
deriving DecidableEq, Repr

/-- A tag in the namespace of runnable blocks whose kind does not exist. -/
structure UnknownKind where
  tag : String
deriving DecidableEq, Repr

/-- The wording of an unknown kind. -/
def UnknownKind.message (e : UnknownKind) : String :=
  "unknown runnable block kind `" ++ e.tag ++ "`"

/-- The text after an opening, if it starts with it. -/
def dropOpening? : List Char → List Char → Option (List Char)
  | [], text => some text
  | _ :: _, [] => none
  | o :: opening, c :: text => if o = c then dropOpening? opening text else none

namespace CodeBlock

/-- A code block that has no source text. -/
def ofText (info body : String) : CodeBlock := ⟨info, body, none⟩

/-- The first word of the info string. -/
def language (block : CodeBlock) : String := String.ofList (firstWord block.info.toList)

/-- The argument text of the info string: what follows its first word, without blanks around. -/
def argumentText (block : CodeBlock) : String :=
  let info := (trim block.info).toList
  String.ofList (dropBlanks (info.dropWhile fun c => !isBlank c))

/-- The part of a tag after the namespace and a colon. -/
def kindWord? (scope tag : String) : Option String :=
  (dropOpening? (scope.toList ++ [':']) tag.toList).map String.ofList

/-- The runnable block that a code block is under a namespace, `none` for an ordinary one. -/
def runnable? (block : CodeBlock) (scope : String) : Except UnknownKind (Option Runnable) :=
  match kindWord? scope block.language with
  | none => .ok none
  | some word =>
    match Block.Kind.ofTag? word with
    | none => .error ⟨block.language⟩
    | some kind => .ok (some ⟨kind, block.argumentText, block.body⟩)

end CodeBlock

/-- The text after the last full stop of a path, empty if there is none. -/
def extension (path : String) : String :=
  if path.toList.contains '.' then
    String.ofList ((path.toList.reverse.takeWhile (· != '.')).reverse)
  else ""

/-- The fence language for a file, by the extension of its path. -/
def languageOfPath (path : String) : String :=
  match extension path with
  | "rs" => "rust"
  | "js" | "mjs" | "cjs" => "js"
  | "jsx" => "jsx"
  | "ts" | "mts" => "ts"
  | "tsx" => "tsx"
  | "py" => "python"
  | "sh" | "bash" => "bash"
  | "md" => "markdown"
  | "yml" | "yaml" => "yaml"
  | "json" => "json"
  | "toml" => "toml"
  | "html" => "html"
  | "css" => "css"
  | _ => ""

end Runbook.Document
