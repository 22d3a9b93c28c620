import Runbook.Text.Blank
import Runbook.Text.Line
import Runbook.Yaml.Node
/-!
# Frontmatter

A source may start with a block of settings between two lines of three hyphens. `Frontmatter.split`
finds the block: the first line must be the hyphens alone, and the block ends with the first later
line that is the hyphens up to trailing blanks. What follows that line is the content, a suffix of
the source: `split_opening`.

The settings are a YAML mapping of which four entries matter. `Frontmatter.ofNode?` reads them: a
text entry may be missing or null and takes the text of any scalar, the switch takes only the
words for true and false, and an entry may not be given twice.

Scope. Other entries are allowed and ignored. A sequence of documents is refused.
-/

set_option autoImplicit false

namespace Runbook.Document

open Runbook.Text

/-- The settings of a document. -/
structure Frontmatter where
  title : Option String
  /-- The name under which the document keeps its assets, instead of its file's. -/
  basename : Option String
  /-- The directory that its blocks start in. -/
  workdir : Option String
  /-- Whether its blocks are run. -/
  run : Bool
deriving DecidableEq, Repr

/-- What is wrong with the frontmatter of a source. -/
inductive FrontmatterError where
  /-- The block has no closing line. -/
  | unclosed
  /-- The block is not YAML, or its entries do not have the types of the settings. -/
  | invalidYaml
deriving DecidableEq, Repr

/-- The wording of a frontmatter error. -/
def FrontmatterError.message : FrontmatterError → String
  | .unclosed => "frontmatter block is never closed with `---`"
  | .invalidYaml => "invalid YAML in frontmatter"

namespace Frontmatter

/-- The settings where none are given. -/
def default : Frontmatter := ⟨none, none, none, true⟩

/-! ### Finding the block -/

/-- The three hyphens of an opening or closing line. -/
def marker : List Char := ['-', '-', '-']

/-- Whether a line closes the block. -/
def isClosing (line : List Char) : Bool := dropTrailing isBlank line == marker

/-- The text after an opening line, if the source starts with one. -/
def afterOpening? : List Char → Option (List Char)
  | '-' :: '-' :: '-' :: '\n' :: rest => some rest
  | '-' :: '-' :: '-' :: '\r' :: '\n' :: rest => some rest
  | _ => none

/-- The lines before the first closing line and those after it. -/
def splitAtClosing : List (List Char) → Option (List (List Char) × List (List Char))
  | [] => none
  | line :: rest =>
    if isClosing line then some ([], rest)
    else (splitAtClosing rest).map fun (before, after) => (line :: before, after)

/-- What a source holds besides its content. -/
inductive Split where
  /-- There is no block: the source is all content. -/
  | absent
  /-- The settings are between the markers; the content follows. -/
  | block (settings content : List Char)
  /-- The block is not closed. -/
  | unclosed
deriving DecidableEq, Repr

/-- Finds the block of settings at the start of a source. -/
def split (source : List Char) : Split :=
  match afterOpening? source with
  | none => .absent
  | some rest =>
    match splitAtClosing (terminated rest) with
    | none => .unclosed
    | some (before, after) => .block before.flatten after.flatten

/-! ### Reading the settings -/

/-- The words for the missing value. -/
def nullWords : List String := ["null", "Null", "NULL", "~"]

/-- The words for the two values of a switch. -/
def switch? (word : String) : Option Bool :=
  if word ∈ ["true", "True", "TRUE"] then some true
  else if word ∈ ["false", "False", "FALSE"] then some false
  else none

/-- The text of a scalar or its absence: an empty or null plain scalar without a tag is absent,
and a plain scalar with the tag of null must be a word for it. -/
def text? : Yaml.Node → Option (Option String)
  | .scalar text .plain none =>
    some (if text.isEmpty || text ∈ nullWords then none else some text)
  | .scalar text .plain (some tag) =>
    if tag = Yaml.Build.coreStem ++ "null" then
      if text ∈ nullWords then some none else none
    else some (some text)
  | .scalar text _ _ => some (some text)
  | _ => none

/-- The value of a switch: a plain word, or a literal scalar with the tag of truth values. -/
def flag? : Yaml.Node → Option Bool
  | .scalar text .plain _ => switch? text
  | .scalar text .literal (some tag) =>
    if tag = Yaml.Build.coreStem ++ "bool" then switch? text else none
  | _ => none

/-- The settings with one entry of the mapping read. -/
def readSetting? (settings : Frontmatter) (key : String) (value : Yaml.Node) :
    Option Frontmatter :=
  match key with
  | "title" => (text? value).map fun title => { settings with title }
  | "basename" => (text? value).map fun basename => { settings with basename }
  | "cwd" => (text? value).map fun workdir => { settings with workdir }
  | "run" => (flag? value).map fun run => { settings with run }
  | _ => some settings

/-- The keys of the settings. -/
def settingKeys : List String := ["title", "basename", "cwd", "run"]

/-- Reads the entries of a mapping in order. Each key must be a scalar, and no setting may be
given twice. -/
def readEntries? : Frontmatter → List String → List (Yaml.Node × Yaml.Node) → Option Frontmatter
  | settings, _, [] => some settings
  | settings, seen, (.scalar key _ _, value) :: rest =>
    if key ∈ settingKeys ∧ key ∈ seen then none
    else (readSetting? settings key value).bind fun settings =>
      readEntries? settings (key :: seen) rest
  | _, _, _ => none

/-- The settings that a document gives: a mapping, or nothing at all. -/
def ofNode? : Yaml.Node → Option Frontmatter
  | .mapping entries => readEntries? .default [] entries
  | .scalar text .plain _ => if text.isEmpty then some .default else none
  | _ => none

/-- The settings written between the markers. -/
def ofSettings? (settings : List Char) : Option Frontmatter :=
  let text := dropTrailing isBlank (dropBlanks settings)
  if text.isEmpty then some .default
  else
    match Yaml.documents? text with
    | some [] => some .default
    | some [root] => ofNode? root
    | _ => none

/-- The settings of a source, if it has a block of them, and its content. -/
def read (source : List Char) : Except FrontmatterError (Option Frontmatter × List Char) :=
  match split source with
  | .absent => .ok (none, source)
  | .unclosed => .error .unclosed
  | .block settings content =>
    match ofSettings? settings with
    | some frontmatter => .ok (some frontmatter, content)
    | none => .error .invalidYaml

/-! ### The content is a suffix -/

theorem splitAtClosing_flatten {lines before after : List (List Char)}
    (h : splitAtClosing lines = some (before, after)) :
    ∃ line ∈ lines, isClosing line ∧ lines = before ++ line :: after := by
  induction lines generalizing before with
  | nil => simp [splitAtClosing] at h
  | cons first rest ih =>
    rw [splitAtClosing] at h
    split at h
    · rename_i hc
      obtain ⟨rfl, rfl⟩ := Prod.mk.inj (Option.some.inj h)
      exact ⟨first, List.mem_cons_self, hc, rfl⟩
    · obtain ⟨⟨b, a⟩, hs, heq⟩ := Option.map_eq_some_iff.1 h
      obtain ⟨rfl, rfl⟩ := Prod.mk.inj heq
      obtain ⟨line, hmem, hline, hsplit⟩ := ih hs
      exact ⟨line, List.mem_cons_of_mem _ hmem, hline, by rw [hsplit]; rfl⟩

/-- The content of a source with a block is what follows the closing line. -/
theorem split_opening {source settings content : List Char}
    (h : split source = .block settings content) :
    ∃ opening closing : List Char, isClosing closing ∧
      source = opening ++ settings ++ closing ++ content := by
  unfold split at h
  split at h
  · simp at h
  · rename_i rest hrest
    split at h
    · simp at h
    · rename_i before after hclose
      obtain ⟨rfl, rfl⟩ := Split.block.inj h
      obtain ⟨line, -, hline, hsplit⟩ := splitAtClosing_flatten hclose
      have hflat : rest = before.flatten ++ line ++ after.flatten := by
        rw [← flatten_terminated rest, hsplit]; simp
      unfold afterOpening? at hrest
      split at hrest
      · exact ⟨['-', '-', '-', '\n'], line, hline, by
          rw [Option.some.inj hrest, hflat]; simp⟩
      · exact ⟨['-', '-', '-', '\r', '\n'], line, hline, by
          rw [Option.some.inj hrest, hflat]; simp⟩
      · simp at hrest

end Frontmatter

end Runbook.Document
