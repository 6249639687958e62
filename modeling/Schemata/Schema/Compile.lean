import Schemata.Json.Pointer
import Schemata.Schema.Error
import Schemata.Schema.Node

/-!
# Reading a schema

* `Rules.read` : the keywords of a schema object that ask something of the value itself;
* `Node.compileAt` : the node of a value, errors being placed below a pointer;
* `Node.compile` : the node of a whole schema.

Keywords are read in a fixed order, and the first one at fault is the error. Branches of combinators
are left out if they are at fault, so they are never the reason of an error.
-/

namespace Schemata

namespace Rules

/-! ## Single keywords -/

/-- The keyword at this place has a value of the wrong form. -/
def invalid {α : Type} (path keyword expected : String) : Except SchemaError α :=
  .error (.invalidKeyword path keyword expected)

def tagsExpected : String := "a string or an array of strings"

def namesExpected : String := "an array of strings"

/-- The texts of an array; every item must be one. -/
def readTexts (path keyword expected : String) : List Json → Except SchemaError (List String)
  | [] => .ok []
  | .string s :: rest => do return s :: (← readTexts path keyword expected rest)
  | _ :: _ => invalid path keyword expected

/-- The kind of a list of tags, `null` apart: one tag is a kind, several are an unknown one. -/
def kindOfTags (tags : List String) : Option Kind × Bool :=
  let nullable := tags.contains "null"
  match tags.filter (· ≠ "null") with
  | [] => (if nullable then some .null else none, nullable)
  | [tag] => (some (.ofTag tag), nullable)
  | several => (some (.other ("|".intercalate several)), nullable)

/-- The kind that `type` names, and whether it allows `null` besides. -/
def readKind (path : String) (object : Json) : Except SchemaError (Option Kind × Bool) :=
  match object.member? "type" with
  | none => .ok (none, false)
  | some (.string tag) => .ok (some (.ofTag tag), false)
  | some (.array tags) => do return kindOfTags (← readTexts path "type" tagsExpected tags)
  | some _ => invalid path "type" tagsExpected

def readText (path keyword : String) (object : Json) : Except SchemaError (Option String) :=
  match object.member? keyword with
  | none => .ok none
  | some (.string s) => .ok (some s)
  | some _ => invalid path keyword "a string"

def readPattern (path : String) (object : Json) : Except SchemaError (Option Pattern) := do
  match ← readText path "pattern" object with
  | none => return none
  | some source => (Pattern.enforced? source).mapError (.invalidPattern path source)

def readAllowed (path : String) (object : Json) : Except SchemaError (Option (List Json)) :=
  match object.member? "enum" with
  | none => .ok none
  | some (.array values) => .ok (some values)
  | some _ => invalid path "enum" "an array"

/-- The length that a number gives: an integer from 0 to `2^64`, where the end counts as the
largest word. -/
def lengthOf? (n : Number) : Option Nat :=
  match n with
  | .integer i _ => if 0 ≤ i then some i.toNat else none
  | .double x =>
    let i := x.truncate
    if x.isIntegral ∧ 0 ≤ i ∧ i ≤ 0x10000000000000000 then some (Nat.min i.toNat 0xffffffffffffffff)
    else none

def readLength (path keyword : String) (object : Json) : Except SchemaError (Option Nat) :=
  match object.member? keyword with
  | none => .ok none
  | some (.number n) =>
    match lengthOf? n with
    | some length => .ok (some length)
    | none => invalid path keyword "a non-negative integer"
  | some _ => invalid path keyword "a non-negative integer"

/-- The bound of two keywords. A number behind the exclusive one is an exclusive limit; a boolean says
whether the limit of the other one is exclusive. -/
def readBound (path inclusive exclusive : String) (object : Json) :
    Except SchemaError (Option Bound) := do
  let limit ← match object.member? inclusive with
    | none => pure none
    | some (.number n) => pure (some n)
    | some _ => invalid path inclusive "a number"
  match object.member? exclusive with
  | none => return limit.map fun limit => ⟨limit, false⟩
  | some (.number n) => return some ⟨n, true⟩
  | some (.bool flag) => return limit.map fun limit => ⟨limit, flag⟩
  | some _ => invalid path exclusive "a number or a boolean"

/-- The required names; a boolean, which older schemas put at the property itself, asks for none. -/
def readRequired (path : String) (object : Json) : Except SchemaError (List String) :=
  match object.member? "required" with
  | none => .ok []
  | some (.array names) => readTexts path "required" namesExpected names
  | some (.bool _) => .ok []
  | some _ => invalid path "required" namesExpected

/-! ## All keywords -/

def read (path : String) (object : Json) : Except SchemaError Rules := do
  let (kind, nullable) ← readKind path object
  let format ← readText path "format" object
  let pattern ← readPattern path object
  let allowed ← readAllowed path object
  let minLength ← readLength path "minLength" object
  let maxLength ← readLength path "maxLength" object
  let minimum ← readBound path "minimum" "exclusiveMinimum" object
  let maximum ← readBound path "maximum" "exclusiveMaximum" object
  let required ← readRequired path object
  return {
    kind := kind
    nullable := nullable || object.member? "nullable" == some (.bool true)
    format := format.map Format.ofName
    pattern := pattern
    allowed := allowed
    minLength := minLength
    maxLength := maxLength
    minimum := minimum
    maximum := maximum
    required := required
    description := (object.member? "description").bind Json.string?
    deprecated := object.member? "deprecated" == some (.bool true) }

end Rules

namespace Node

/-- The error of a value that is no schema, or the reference it is. -/
def reference? (path : String) (object : Json) : Except SchemaError (Option String) :=
  match object.member? "$ref" with
  | none => .ok none
  | some (.string target) => .ok (some target)
  | some _ => .error (.malformedReference path)

mutual

/-- The node of a value; `path` is its pointer. -/
def compileAt (path : String) : Json → Except SchemaError Node
  | .bool _ => .ok any
  | .object members => do
    let object := Json.object members
    match ← reference? path object with
    | some target => return reference target
    | none =>
      let rules ← Rules.read path object
      let properties ← compileProperties path members
      let items ← compileItems path members
      let additional ← compileAdditional path members
      let combinations := compileBranches path .allOf members
        ++ compileBranches path .anyOf members ++ compileBranches path .oneOf members
        ++ compileNot path members
      return schema rules properties items additional combinations
  | value => .error (.notASchema path value.kindName)

/-- The schemas of the declared properties, found among the members of an object. -/
def compileProperties (path : String) :
    List (String × Json) → Except SchemaError (List (String × Node))
  | [] => .ok []
  | (keyword, value) :: rest =>
    if keyword = "properties" then
      match value with
      | .object properties => compileEach (Pointer.child path "properties") properties
      | _ => Rules.invalid path "properties" "an object"
    else compileProperties path rest

/-- The schemas of named values below a pointer. -/
def compileEach (path : String) :
    List (String × Json) → Except SchemaError (List (String × Node))
  | [] => .ok []
  | (name, value) :: rest => do
    let node ← compileAt (Pointer.child path name) value
    return (name, node) :: (← compileEach path rest)

/-- The schema of array items; a list of schemas by position is not looked at. -/
def compileItems (path : String) : List (String × Json) → Except SchemaError (Option Node)
  | [] => .ok none
  | (keyword, value) :: rest =>
    if keyword = "items" then
      match value with
      | .object members => do
        return some (← compileAt (Pointer.child path "items") (.object members))
      | .bool _ => .ok (some any)
      | .array _ => .ok none
      | _ => Rules.invalid path "items" "a schema object or boolean"
    else compileItems path rest

def compileAdditional (path : String) : List (String × Json) → Except SchemaError (Additional Node)
  | [] => .ok .open
  | (keyword, value) :: rest =>
    if keyword = "additionalProperties" then
      match value with
      | .bool true => .ok .open
      | .bool false => .ok .forbidden
      | .object members => do
        return .constrained
          (← compileAt (Pointer.child path "additionalProperties") (.object members))
      | _ => Rules.invalid path "additionalProperties" "a boolean or a schema object"
    else compileAdditional path rest

/-- The branches of a combinator that are schemas; anything but an array is not looked at. -/
def compileBranches (path : String) (combinator : Combinator) :
    List (String × Json) → List (Combinator × List Node)
  | [] => []
  | (keyword, value) :: rest =>
    if keyword = combinator.keyword then
      match value with
      | .array branches =>
        [(combinator, compileValid (Pointer.child path combinator.keyword) 0 branches)]
      | _ => []
    else compileBranches path combinator rest

/-- The schemas among some values below a pointer. -/
def compileValid (path : String) (index : Nat) : List Json → List Node
  | [] => []
  | value :: rest =>
    match compileAt (Pointer.child path (toString index)) value with
    | .ok node => node :: compileValid path (index + 1) rest
    | .error _ => compileValid path (index + 1) rest

/-- The schema behind `not`; without one that is a schema there is no branch. -/
def compileNot (path : String) : List (String × Json) → List (Combinator × List Node)
  | [] => []
  | (keyword, value) :: rest =>
    if keyword = "not" then
      match compileAt (Pointer.child path "not") value with
      | .ok node => [(.not, [node])]
      | .error _ => [(.not, [])]
    else compileNot path rest

end

def compile (schema : Json) : Except SchemaError Node := compileAt "#" schema

end Node

end Schemata
