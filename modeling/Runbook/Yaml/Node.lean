import Runbook.Yaml.Token
/-!
# YAML documents

The tree that a list of tokens stands for. `documents?` reads all documents of a text; each is a
scalar, a sequence or a mapping, a missing node being an empty plain scalar. An alias is replaced
by the node of its anchor, which must stand before it, and by `enclosing` where it stands inside
that node.

Scope. Tags keep their full name and are not interpreted, nor are plain scalars: what a value
means is decided by its reader.
-/

set_option autoImplicit false

namespace Runbook.Yaml

/-- A node of a document. -/
inductive Node where
  | scalar (text : String) (style : ScalarStyle) (tag : Option String)
  | sequence (items : List Node)
  | mapping (entries : List (Node × Node))
  /-- An alias for a collection around it. -/
  | enclosing

namespace Node

/-- The node that stands where none is written. -/
def missing : Node := .scalar "" .plain none

end Node

/-- The state of reading nodes: the tokens that are left, the nodes of the anchors so far, latest
first, where `none` marks a node that is not complete, and the stems of tag handles. -/
structure Builder where
  tokens : List Token
  anchors : List (String × Option Node)
  handles : List (String × String)

/-- A step of reading nodes. -/
abbrev Build := StateT Builder Option

namespace Build

/-- The next token. -/
def peek : Build (Option Token) := fun b => some (b.tokens.head?, b)

/-- Moves past the next token. -/
def skip : Build Unit := fun b => some ((), { b with tokens := b.tokens.tail })

/-- Whether the next token is one of some tokens; the end of the tokens is none of them. -/
def sees (tokens : List Token) : Build Bool := do
  return (← peek).any fun token => tokens.contains token

/-- Moves past the next token if it is a given one, and tells whether it was. -/
def accept (token : Token) : Build Bool := do
  if ← sees [token] then skip; return true else return false

/-- Moves past a token that must come next. -/
def expect (token : Token) : Build Unit := do
  if ← accept token then return else failure

/-- Names a node, or announces one that is being read. -/
def bindAnchor (name : Option String) (node : Option Node) : Build Unit :=
  match name with
  | none => return
  | some name => modify fun b => { b with anchors := (name, node) :: b.anchors }

/-- The stem of the tags of a schema. -/
def coreStem : String := "tag:yaml.org,2002:"

/-- The full name of a tag; its handle must be known. -/
def resolveTag (handle suffix : String) : Build String := do
  if handle.isEmpty then return suffix
  match (← get).handles.lookup handle with
  | some stem => return stem ++ suffix
  | none => failure

/-- The anchor and the tag before a node, in either order. -/
def properties : Build (Option String × Option String) := do
  match ← peek with
  | some (.anchor name) =>
    skip
    match ← peek with
    | some (.tag handle suffix) => skip; return (some name, some (← resolveTag handle suffix))
    | _ => return (some name, none)
  | some (.tag handle suffix) =>
    skip
    let tag ← resolveTag handle suffix
    match ← peek with
    | some (.anchor name) => skip; return (some name, some tag)
    | _ => return (none, some tag)
  | _ => return (none, none)

/-- The tag that a written scalar has: the mark alone says that it is not to be interpreted, and
leaves a plain scalar without a tag. -/
def scalarTag (tag : Option String) : Option String :=
  if tag = some "!" then none else tag

mutual

/-- A node. In a block context it may be a block collection, and as a value in a mapping also a
sequence that is not indented further than the mapping. -/
def node : Nat → Bool → Bool → Build Node
  | 0, _, _ => failure
  | fuel + 1, block, unindented => do
    if let some (.alias name) ← peek then
      skip
      match (← get).anchors.lookup name with
      | some target => return target.getD .enclosing
      | none => failure
    let (name, tag) ← properties
    match ← peek with
    | some (.scalar text style) =>
      skip
      let result := Node.scalar text style (scalarTag tag)
      bindAnchor name (some result)
      return result
    | token =>
      bindAnchor name none
      let result ←
        if unindented && token == some .blockEntry then
          pure (Node.sequence (← unindentedItems fuel))
        else if token == some .flowSequenceStart then
          skip; pure (Node.sequence (← flowItems fuel true))
        else if token == some .flowMappingStart then
          skip; pure (Node.mapping (← flowEntries fuel true))
        else if block && token == some .blockSequenceStart then
          skip; pure (Node.sequence (← blockItems fuel))
        else if block && token == some .blockMappingStart then
          skip; pure (Node.mapping (← blockEntries fuel))
        else if name.isSome || tag.isSome then pure (Node.scalar "" .plain tag)
        else failure
      bindAnchor name (some result)
      return result

/-- The rest of a block sequence. -/
def blockItems : Nat → Build (List Node)
  | 0 => failure
  | fuel + 1 => do
    if ← accept .blockEntry then
      let item ←
        if ← sees [.blockEntry, .blockEnd] then pure Node.missing else node fuel true false
      return item :: (← blockItems fuel)
    expect .blockEnd
    return []

/-- The rest of a sequence that is not indented further than the mapping around it. -/
def unindentedItems : Nat → Build (List Node)
  | 0 => failure
  | fuel + 1 => do
    if ← accept .blockEntry then
      let item ←
        if ← sees [.blockEntry, .key, .value, .blockEnd] then pure Node.missing
        else node fuel true false
      return item :: (← unindentedItems fuel)
    return []

/-- The rest of a block mapping. -/
def blockEntries : Nat → Build (List (Node × Node))
  | 0 => failure
  | fuel + 1 => do
    if ← accept .key then
      let key ← if ← sees [.key, .value, .blockEnd] then pure Node.missing else node fuel true true
      let value ←
        if ← accept .value then
          if ← sees [.key, .value, .blockEnd] then pure Node.missing else node fuel true true
        else pure Node.missing
      return (key, value) :: (← blockEntries fuel)
    expect .blockEnd
    return []

/-- The value of an entry in brackets, missing before one of some tokens. -/
def flowValue : Nat → List Token → Build Node
  | 0, _ => failure
  | fuel + 1, ends => do
    if ← accept .value then
      if ← sees ends then pure Node.missing else node fuel false false
    else pure Node.missing

/-- The rest of a sequence in square brackets; all but the first item follow a comma. A pair with
a key indicator is a mapping of one entry. -/
def flowItems : Nat → Bool → Build (List Node)
  | 0, _ => failure
  | fuel + 1, first => do
    if ← accept .flowSequenceEnd then return []
    if !first then expect .flowEntry
    if ← accept .key then
      let key ←
        if ← sees [.value, .flowEntry, .flowSequenceEnd] then
          skip
          pure Node.missing
        else node fuel false false
      let value ← flowValue fuel [.flowEntry, .flowSequenceEnd]
      return .mapping [(key, value)] :: (← flowItems fuel false)
    if ← accept .flowSequenceEnd then return []
    let item ← node fuel false false
    return item :: (← flowItems fuel false)

/-- The rest of a mapping in braces; all but the first entry follow a comma. -/
def flowEntries : Nat → Bool → Build (List (Node × Node))
  | 0, _ => failure
  | fuel + 1, first => do
    if ← accept .flowMappingEnd then return []
    if !first then expect .flowEntry
    if ← accept .key then
      let ends := [.value, .flowEntry, .flowMappingEnd]
      let key ← if ← sees ends then pure Node.missing else node fuel false false
      let value ← flowValue fuel [.flowEntry, .flowMappingEnd]
      return (key, value) :: (← flowEntries fuel false)
    if ← accept .flowMappingEnd then return []
    let key ← node fuel false false
    return (key, .missing) :: (← flowEntries fuel false)

end

/-- Whether the next token is a directive. -/
def seesDirective : Build Bool := do
  match ← peek with
  | some (.versionDirective ..) | some (.tagDirective ..) => return true
  | _ => return false

/-- The directives before a document: at most one version, which must be 1.1 or 1.2, and the stem
of each handle at most once. -/
def directives : Nat → Bool → List (String × String) → Build (List (String × String))
  | 0, _, _ => failure
  | fuel + 1, versioned, handles => do
    match ← peek with
    | some (.versionDirective major minor) =>
      if versioned || major != 1 || (minor != 1 && minor != 2) then failure
      skip
      directives fuel true handles
    | some (.tagDirective handle stem) =>
      if (handles.lookup handle).isSome then failure
      skip
      directives fuel versioned ((handle, stem) :: handles)
    | _ => return handles

/-- Gives a document its handles: those of its directives and the two that are always there. -/
def useHandles (given : List (String × String)) : Build Unit :=
  modify fun b => { b with handles := given ++ [("!", "!"), ("!!", coreStem)] }

/-- Whether the node of a document is missing: a marker, a directive or the end comes next. -/
def seesDocumentEnd : Build Bool := do
  match ← peek with
  | none => return true
  | _ => return (← seesDirective) || (← sees [.documentStart, .documentEnd])

/-- Moves past the markers that end a document. -/
def skipDocumentEnds : Nat → Build Unit
  | 0 => failure
  | fuel + 1 => do
    if ← accept .documentEnd then skipDocumentEnds fuel

/-- The documents up to the end of the tokens. Only the first may start without a marker. Each has
anchors of its own. -/
def documents (size : Nat) : Nat → Bool → Build (List Node)
  | 0, _ => failure
  | fuel + 1, first => do
    modify fun b => { b with anchors := [] }
    if !first then skipDocumentEnds size
    if (← peek).isNone then return []
    let marked := (← seesDirective) || (← sees [.documentStart])
    let bare := first && !marked
    let given ← if bare then pure [] else directives size false []
    useHandles given
    if !bare then expect .documentStart
    let root ← if !bare && (← seesDocumentEnd) then pure Node.missing else node size true false
    let _ ← accept .documentEnd
    return root :: (← documents size fuel false)

end Build

/-- The documents of a text, `none` when it is not YAML. -/
def documents? (text : List Char) : Option (List Node) := do
  let tokens ← tokenize? text
  let size := 4 * tokens.length + 8
  (Build.documents size size true).run' ⟨tokens, [], []⟩

end Runbook.Yaml
