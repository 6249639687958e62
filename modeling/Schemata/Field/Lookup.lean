import Schemata.Field.Path
import Schemata.Schema.Node

/-!
# The schema of a field

* `Lookup` : the schema found, or where and why there is none;
* `Node.step` : one step; `Node.resolve` : a whole path; `Node.field` : a dotted text.
-/

namespace Schemata

inductive UnresolvedReason where
  | invalidPath | unknownProperty | notAnArray
  deriving DecidableEq, Repr

/-- What a path leads to; `place` ends with the step that fails. -/
inductive Lookup where
  | resolved (node : Node)
  | unresolved (place : String) (reason : UnresolvedReason)

namespace Node

/-- The schema that one step leads to. A position leads to the items of an array, or else to a
property of that name. -/
def step (node : Node) : Segment → Except UnresolvedReason Node
  | .name name =>
    match node.findProperty? name with
    | some child => .ok child
    | none => .error .unknownProperty
  | .index i =>
    match node.items with
    | some items => .ok items
    | none =>
      match node.findProperty? (toString i) with
      | some child => .ok child
      | none => .error .notAnArray

/-- The schema that a path leads to after the steps of `walked`. -/
def resolveFrom (walked : FieldPath) (node : Node) : FieldPath → Lookup
  | [] => .resolved node
  | segment :: rest =>
    let walked := walked ++ [segment]
    match node.step segment with
    | .ok child => resolveFrom walked child rest
    | .error reason => .unresolved (FieldPath.toDot walked) reason

def resolve (node : Node) (path : FieldPath) : Lookup := resolveFrom [] node path

def field (node : Node) (text : String) : Lookup :=
  match FieldPath.ofDot? text with
  | some path => node.resolve path
  | none => .unresolved text .invalidPath

end Node

end Schemata
