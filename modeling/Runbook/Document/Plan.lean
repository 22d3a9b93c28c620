import Runbook.Block.Action
import Runbook.Document.Parse
/-!
# Plans

The plan of a document lists its runnable blocks in order, each checked before any of them runs. A
document whose settings turn running off has an empty plan, whatever its blocks hold.
-/

set_option autoImplicit false

namespace Runbook.Document

open Block

/-- A block of a plan: the place of its node among the nodes, its line and what it does. -/
structure PlannedBlock where
  index : Nat
  line : Nat
  action : Action
deriving DecidableEq, Repr

/-- A block that is refused: its line, its kind if that is known, and the cause. -/
structure RefusedBlock where
  line : Nat
  kind : Option Kind
  cause : Refusal
deriving DecidableEq, Repr

/-- The word for a kind in messages about a block of it. -/
def kindWord (kind : Option Kind) : String := (kind.map Kind.tag).getD "runnable"

/-- The opening words of every message about a block. -/
def blockPlace (line : Nat) (kind : Option Kind) : String :=
  "line " ++ toString line ++ ": " ++ kindWord kind ++ " block: "

/-- The wording of a refused block. -/
def RefusedBlock.message (block : RefusedBlock) : String :=
  blockPlace block.line block.kind ++ block.cause.message

/-- The line of a node, zero if it comes from no source. -/
def Node.line (node : Node) : Nat :=
  match node.position with
  | some position => position.line
  | none => 0

/-- What a plan holds for a node: nothing unless it is a runnable block. -/
def Node.plan (scope : String) (index : Nat) (node : Node) :
    Except RefusedBlock (Option PlannedBlock) :=
  match node.codeBlock? with
  | none => .ok none
  | some block =>
    match block.runnable? scope with
    | .error cause => .error ⟨node.line, none, .unknownKind cause⟩
    | .ok none => .ok none
    | .ok (some runnable) =>
      match Action.ofRunnable runnable with
      | .error cause => .error ⟨node.line, some runnable.kind, cause⟩
      | .ok action => .ok (some ⟨index, node.line, action⟩)

/-- What a plan holds for nodes, the first of which has an index. -/
def planNodes (scope : String) : Nat → List Node → Except RefusedBlock (List PlannedBlock)
  | _, [] => .ok []
  | index, node :: nodes =>
    match node.plan scope index with
    | .error e => .error e
    | .ok block =>
      match planNodes scope (index + 1) nodes with
      | .error e => .error e
      | .ok blocks => .ok (block.toList ++ blocks)

/-- The plan of a document under a namespace. -/
def plan (document : Document) (scope : String) :
    Except RefusedBlock (List PlannedBlock) :=
  match document.frontmatter with
  | some settings => if settings.run then planNodes scope 0 document.nodes else .ok []
  | none => planNodes scope 0 document.nodes

end Runbook.Document
