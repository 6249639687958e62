import Schemata.Format.Basic
import Schemata.Schema.Bound
import Schemata.Schema.Kind
import Schemata.Schema.Pattern

/-!
# Schema nodes

* `Rules` : what a node asks of a value by itself;
* `Combinator` : the keywords that combine schemas; they guide examples and lookups only;
* `Node` : a schema as a tree;
* `Node.effectiveKind?` : the kind a node speaks about, named or implied;
* `Node.property?`, `Node.findProperty?` : the schema of a property, in the node itself or in the
  schemas it combines too.
-/

namespace Schemata

/-- What a node asks of a value, the parts of the value apart. -/
structure Rules where
  kind : Option Kind := none
  nullable : Bool := false
  format : Option Format := none
  pattern : Option Pattern := none
  allowed : Option (List Json) := none
  minLength : Option Nat := none
  maxLength : Option Nat := none
  minimum : Option Bound := none
  maximum : Option Bound := none
  required : List String := []
  description : Option String := none
  deprecated : Bool := false

instance : Inhabited Rules := ⟨{}⟩

inductive Combinator where
  | allOf | anyOf | oneOf | not
  deriving DecidableEq, Repr

def Combinator.keyword : Combinator → String
  | allOf => "allOf"
  | anyOf => "anyOf"
  | oneOf => "oneOf"
  | not => "not"

/-- What a node says about properties that it does not declare. -/
inductive Additional (α : Type) where
  | open
  | forbidden
  | constrained (schema : α)
  deriving Inhabited

inductive Node where
  /-- A reference that stands for an unknown schema; it accepts everything. -/
  | reference (target : String)
  | schema (rules : Rules) (properties : List (String × Node)) (items : Option Node)
      (additional : Additional Node) (combinations : List (Combinator × List Node))

namespace Node

def any : Node := schema {} [] none .open []

instance : Inhabited Node := ⟨any⟩

/-! ## Views -/

/-- The rules; a reference has none. -/
def rules : Node → Rules
  | reference _ => {}
  | schema rules _ _ _ _ => rules

def properties : Node → List (String × Node)
  | reference _ => []
  | schema _ properties _ _ _ => properties

def items : Node → Option Node
  | reference _ => none
  | schema _ _ items _ _ => items

def additional : Node → Additional Node
  | reference _ => .open
  | schema _ _ _ additional _ => additional

def combinations : Node → List (Combinator × List Node)
  | reference _ => []
  | schema _ _ _ _ combinations => combinations

def property? (node : Node) (name : String) : Option Node := node.properties.lookup name

def isRequired (node : Node) (name : String) : Bool := node.rules.required.contains name

/-! ## Effective kind -/

/-- The kind a node speaks about: the one it names, or the one its keywords are made for. -/
def effectiveKind? (node : Node) : Option Kind :=
  let rules := node.rules
  let isOpen := match node.additional with | .open => true | _ => false
  match rules.kind with
  | some .object => some .object
  | some .array => some .array
  | some .string => some .string
  | some .number => some .number
  | some .integer => some .integer
  | some .boolean => some .boolean
  | some .null => some .null
  | some (.other _) | none =>
    if !node.properties.isEmpty || !rules.required.isEmpty || !isOpen then some .object
    else if node.items.isSome then some .array
    else if rules.pattern.isSome || rules.format.isSome || rules.minLength.isSome
        || rules.maxLength.isSome then some .string
    else if rules.minimum.isSome || rules.maximum.isSome then some .number
    else none

/-! ## Lookup through combinations -/

mutual

/-- The schema of a property: the node's own, or else the first one in the schemas that it combines
other than by `not`. -/
def findProperty? (name : String) : Node → Option Node
  | .reference _ => none
  | .schema _ properties _ _ combinations =>
    (properties.lookup name).or (findInCombinations? name combinations)

def findInCombinations? (name : String) : List (Combinator × List Node) → Option Node
  | [] => none
  | (combinator, branches) :: rest =>
    if combinator = .not then findInCombinations? name rest
    else (findInBranches? name branches).or (findInCombinations? name rest)

def findInBranches? (name : String) : List Node → Option Node
  | [] => none
  | branch :: rest => (findProperty? name branch).or (findInBranches? name rest)

end

/-! ## Size -/

mutual

def count : Node → Nat
  | .reference _ => 1
  | .schema _ properties items additional combinations =>
    1 + countProperties properties + countItems items + countAdditional additional
      + countCombinations combinations

def countProperties : List (String × Node) → Nat
  | [] => 0
  | (_, node) :: rest => node.count + countProperties rest

def countItems : Option Node → Nat
  | none => 0
  | some node => node.count

def countAdditional : Additional Node → Nat
  | .constrained node => node.count
  | .open | .forbidden => 0

def countCombinations : List (Combinator × List Node) → Nat
  | [] => 0
  | (_, branches) :: rest => countNodes branches + countCombinations rest

def countNodes : List Node → Nat
  | [] => 0
  | node :: rest => node.count + countNodes rest

end

end Node

end Schemata
