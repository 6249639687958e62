import Schemata.Field.Lookup
import Schemata.Json.Pointer
import Schemata.Options
import Schemata.Schema.Equality
import Schemata.Schema.Render

/-!
# Sessions

* `Session` : a schema, the part of it that is being looked at, and the last example;
* `Session.openSchema`, `validate`, `makeExample`, `patchLast`, `descend`, `reset`, `recompile` : the
  steps of a session. A step that cannot be done says why and changes nothing.
-/

namespace Schemata

/-- The state of a session. -/
structure Session where
  root : Option Node := none
  current : Option Node := none
  validation : ValidateOptions := {}
  examples : ExampleOptions := {}
  last : Json := .null

inductive SessionError where
  | noSchema
  | noTarget
  | schema (error : SchemaError)
  deriving DecidableEq

def SessionError.message : SessionError → String
  | noSchema => "no schema compiled"
  | noTarget => "nothing at this pointer"
  | schema e => e.message

namespace Session

def node (s : Session) : Except SessionError Node :=
  match s.current with
  | some node => .ok node
  | none => .error .noSchema

def openSchema (s : Session) (schema : Json) : Except SessionError Session := do
  let node ← (Node.compile schema).mapError .schema
  return { s with root := some node, current := some node }

def validate (s : Session) (payload : Json) : Except SessionError Report := do
  return (← s.node).validate s.validation payload

def makeExample (s : Session) : Except SessionError Session := do
  return { s with last := (← s.node).toExample s.examples }

def patchLast (s : Session) (pointer : String) (value : Json) : Except SessionError Session :=
  match s.last.replaceAt? pointer value with
  | some last => .ok { s with last := last }
  | none => .error .noTarget

/-- Go to the schema of a field, if there is one. -/
def descend (s : Session) (path : String) : Except SessionError (Lookup × Session) := do
  let lookup := (← s.node).field path
  match lookup with
  | .resolved node => return (lookup, { s with current := some node })
  | .unresolved _ _ => return (lookup, s)

def reset (s : Session) : Session := { s with current := s.root }

/-- The whole schema, or an equal one, is looked at. -/
def isRoot (s : Session) : Bool := sameOption Node.same s.current s.root

/-- Write the schema and read it again; true if it is the same as before. -/
def recompile (s : Session) : Except SessionError (Bool × Session) := do
  let old ← s.node
  let new ← (Node.compile old.toJson).mapError .schema
  return (new.same old, { s with current := some new })

end Session

end Schemata
