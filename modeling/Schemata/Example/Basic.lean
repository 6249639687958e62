import Schemata.Example.Merge
import Schemata.Example.Numeric
import Schemata.Example.Text

/-!
# Example values

* `ExampleOptions` : which properties an example has, and how deep it goes;
* `Node.exampleAt`, `Node.toExample` : the example of a schema.

Each step goes to a child, to a branch, or to a merged node, and all of them have fewer nodes.
-/

namespace Schemata

/-- With `requiredOnly` an object has its required properties only; at `maxDepth` objects and arrays
stay empty. -/
structure ExampleOptions where
  requiredOnly : Bool := false
  maxDepth : Nat := 8
  deriving DecidableEq, Repr

namespace Node

/-- The value where nothing better is known. -/
def placeholder : Json := .string "example"

/-- The name of the one further property that an example gets. -/
def additionalName : String := "key"

/-- The first branch of the first `anyOf` or `oneOf` that has one. -/
def firstAlternative? (node : Node) : Option Node :=
  node.combinations.findSome? fun (combinator, branches) =>
    if combinator = .anyOf ∨ combinator = .oneOf then branches.head? else none

theorem count_lt_of_firstAlternative? {node branch : Node}
    (h : node.firstAlternative? = some branch) : branch.count < node.count := by
  obtain ⟨⟨combinator, branches⟩, hmem, hbranch⟩ := List.exists_of_findSome?_eq_some h
  simp only at hbranch
  split at hbranch
  · exact count_lt_of_mem_branches hmem (List.mem_of_mem_head? hbranch)
  · simp at hbranch

/-- An object with a placeholder for each required name that it lacks. -/
def withRequired (required : List String) (members : List (String × Json)) :
    List (String × Json) :=
  required.foldl
    (fun members name =>
      if (members.lookup name).isSome then members else members ++ [(name, placeholder)])
    members

/-- The example of a schema at a depth. -/
def exampleAt (options : ExampleOptions) (depth : Nat) (node : Node) : Json :=
  match node with
  | .reference _ => .null
  | .schema rules properties items additional combinations =>
    let node := Node.schema rules properties items additional combinations
    match rules.allowed.bind List.head? with
    | some value => value
    | none =>
      match _hm : merged? node with
      | some merged => exampleAt options depth merged
      | none =>
        match node.effectiveKind? with
        | some .object =>
          if options.maxDepth ≤ depth then .object []
          else
            let declared := node.properties.attach.filterMap fun ⟨(name, child), hp⟩ =>
              if options.requiredOnly && !node.isRequired name then none
              else some (name, exampleAt options (depth + 1) child)
            let members := withRequired rules.required (Json.membersOf declared)
            match ha : node.additional with
            | .constrained child =>
              if options.requiredOnly || (node.property? additionalName).isSome then .object members
              else
                .object (Json.setMember additionalName (exampleAt options (depth + 1) child) members)
            | _ => .object members
        | some .array =>
          if options.maxDepth ≤ depth then .array []
          else
            match hi : node.items with
            | some child => .array [exampleAt options (depth + 1) child]
            | none => .array [placeholder]
        | some .string => .string rules.exampleString
        | some .integer => .number rules.exampleInteger
        | some .number => (rules.exampleNumber?.map fun x => Json.number (.double x)).getD .null
        | some .boolean => .bool true
        | some .null => .null
        | some (.other _) | none =>
          match _hf : node.firstAlternative? with
          | some branch => exampleAt options depth branch
          | none => .null
termination_by node.count
decreasing_by
  · exact count_lt_of_merged? _hm
  · exact count_lt_of_mem_properties hp
  · exact count_lt_of_additional ha
  · exact count_lt_of_items hi
  all_goals exact count_lt_of_firstAlternative? _hf

def toExample (node : Node) (options : ExampleOptions) : Json := node.exampleAt options 0

end Node

end Schemata
