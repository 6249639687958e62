import Schemata.Schema.Node

/-!
# Writing a schema

* `Rules.toMembers`, `Node.toJson` : a node as a schema, its keywords in a fixed order.
-/

namespace Schemata

namespace Rules

/-- The member of a keyword that may be absent. -/
def entry (keyword : String) (value : Option Json) : List (String × Json) :=
  (value.map fun v => (keyword, v)).toList

/-- The member of a keyword that is written only if it is on. -/
def flag (keyword : String) (on : Bool) : List (String × Json) :=
  if on then [(keyword, .bool true)] else []

/-- The member of a bound; an exclusive one has its own keyword. -/
def boundEntry (inclusive exclusive : String) (bound : Option Bound) : List (String × Json) :=
  match bound with
  | none => []
  | some b => [(if b.exclusive then exclusive else inclusive, .number b.limit)]

/-- The members of the rules, `deprecated` apart, which comes later. -/
def toMembers (rules : Rules) : List (String × Json) :=
  entry "type" (rules.kind.map fun kind => .string kind.tag)
    ++ flag "nullable" rules.nullable
    ++ entry "description" (rules.description.map .string)
    ++ entry "format" (rules.format.map fun format => .string format.name)
    ++ entry "pattern" (rules.pattern.map fun pattern => .string pattern.source)
    ++ entry "enum" (rules.allowed.map .array)
    ++ entry "minLength" (rules.minLength.map .ofNat)
    ++ entry "maxLength" (rules.maxLength.map .ofNat)
    ++ boundEntry "minimum" "exclusiveMinimum" rules.minimum
    ++ boundEntry "maximum" "exclusiveMaximum" rules.maximum
    ++ (if rules.required.isEmpty then [] else [("required", .array (rules.required.map .string))])

end Rules

/-- A single schema behind `not` stands alone, all other branches in an array. -/
def Combinator.write (combinator : Combinator) (branches : List Json) : Json :=
  match combinator, branches with
  | .not, [single] => single
  | _, several => .array several

namespace Node

mutual

/-- The schema that a node was read from, in a fixed form. -/
def toJson : Node → Json
  | .reference target => .object [("$ref", .string target)]
  | .schema rules properties items additional combinations =>
    .object (rules.toMembers
      ++ (if properties.isEmpty then [] else [("properties", .object (propertiesToJson properties))])
      ++ itemsToJson items
      ++ additionalToJson additional
      ++ Rules.flag "deprecated" rules.deprecated
      ++ combinationsToJson combinations)

def propertiesToJson : List (String × Node) → List (String × Json)
  | [] => []
  | (name, node) :: rest => (name, node.toJson) :: propertiesToJson rest

def itemsToJson : Option Node → List (String × Json)
  | none => []
  | some node => [("items", node.toJson)]

def additionalToJson : Additional Node → List (String × Json)
  | .open => []
  | .forbidden => [("additionalProperties", .bool false)]
  | .constrained node => [("additionalProperties", node.toJson)]

def combinationsToJson : List (Combinator × List Node) → List (String × Json)
  | [] => []
  | (combinator, branches) :: rest =>
    (combinator.keyword, combinator.write (nodesToJson branches)) :: combinationsToJson rest

def nodesToJson : List Node → List Json
  | [] => []
  | node :: rest => node.toJson :: nodesToJson rest

end

end Node

end Schemata
