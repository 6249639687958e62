import Schemata.Json.Basic
import Schemata.Text.Quoted

/-!
# Typed values from JSON

* `DecodeError` : why a value has not the form that is asked for;
* `Decode.text`, `flag`, `word`, `optional`, `items`, `choice` : values of single types;
* `Decode.record` : the fields of a record, which is an object, or an array with the fields in order.
-/

namespace Schemata

/-- Why a value has not the form that is asked for. -/
inductive DecodeError where
  | invalidType (found : Json) (expected : String)
  | invalidValue (found : Json) (expected : String)
  | invalidLength (length : Nat) (expected : String)
  | missingField (name : String)
  | unknownVariant (name : String) (variants : List String)
  deriving DecidableEq

namespace DecodeError

def describe : Json → String
  | .null => "null"
  | .bool b => "boolean `" ++ (if b then "true" else "false") ++ "`"
  | .number n =>
    (match n with
      | .integer _ _ => "integer `"
      | .double _ => "floating point `") ++ n.text ++ "`"
  | .string s => "string " ++ Text.quoted s
  | .array _ => "sequence"
  | .object _ => "map"

def message : DecodeError → String
  | invalidType found expected => "invalid type: " ++ describe found ++ ", expected " ++ expected
  | invalidValue found expected => "invalid value: " ++ describe found ++ ", expected " ++ expected
  | invalidLength length expected =>
    "invalid length " ++ toString length ++ ", expected " ++ expected
  | missingField name => "missing field `" ++ name ++ "`"
  | unknownVariant name variants =>
    "unknown variant `" ++ name ++ "`, expected one of " ++
      ", ".intercalate (variants.map fun v => "`" ++ v ++ "`")

end DecodeError

abbrev Decoder (α : Type) := Json → Except DecodeError α

namespace Decode

/-! ## Single values -/

def text : Decoder String
  | .string s => .ok s
  | value => .error (.invalidType value "a string")

def flag : Decoder Bool
  | .bool b => .ok b
  | value => .error (.invalidType value "a boolean")

/-- A natural number that fits a 64-bit word. -/
def word : Decoder Nat
  | .number (.integer n h) =>
    if 0 ≤ n then .ok n.toNat else .error (.invalidValue (.number (.integer n h)) "usize")
  | value => .error (.invalidType value "usize")

def value : Decoder Json := .ok

def optional {α : Type} (decode : Decoder α) : Decoder (Option α)
  | .null => .ok none
  | value => (decode value).map some

def items {α : Type} (decode : Decoder α) : Decoder (List α)
  | .array values => values.mapM decode
  | value => .error (.invalidType value "a sequence")

def variant {α : Type} (all : List α) (name : α → String) (written : String) :
    Except DecodeError α :=
  match all.find? fun a => name a == written with
  | some a => .ok a
  | none => .error (.unknownVariant written (all.map name))

/-- One of several names, as a text or as an object with `null` behind the name. -/
def choice {α : Type} (all : List α) (name : α → String) : Decoder α
  | .string written => variant all name written
  | .object [(written, content)] => do
    let a ← variant all name written
    if content = .null then return a else throw (.invalidType content "unit")
  | .object members => .error (.invalidValue (.object members) "map with a single key")
  | value => .error (.invalidType value "string or map")

/-! ## Records -/

/-- A field of a record: its name, whether it may be absent, and the fault of a value for it. -/
structure Field where
  name : String
  isOptional : Bool
  fault? : Json → Option DecodeError

def Field.of {α : Type} (name : String) (isOptional : Bool) (decode : Decoder α) : Field :=
  ⟨name, isOptional, fun value =>
    match decode value with
    | .ok _ => none
    | .error e => some e⟩

/-- The first fault of values for fields in order, `place` being the place of the first field. -/
def positionFault? (expected : String) (place : Nat) : List Field → List Json → Option DecodeError
  | [], _ => none
  | field :: fields, [] =>
    if field.isOptional then positionFault? expected (place + 1) fields []
    else some (.invalidLength place expected)
  | field :: fields, value :: values =>
    (field.fault? value).or (positionFault? expected (place + 1) fields values)

/-- The first fault of the members that are fields. -/
def memberFault? (fields : List Field) (members : List (String × Json)) : Option DecodeError :=
  members.findSome? fun (name, value) =>
    (fields.find? fun field => field.name == name).bind fun field => field.fault? value

/-- The values of the fields of a record by name. Members that are no fields do not count. -/
def record (name : String) (fields : List Field) : Decoder (String → Option Json)
  | .object members =>
    match memberFault? fields members with
    | some e => .error e
    | none =>
      match fields.find? fun f => !f.isOptional && (members.lookup f.name).isNone with
      | some f => .error (.missingField f.name)
      | none => .ok fun name => members.lookup name
  | .array values =>
    let count := toString fields.length ++
      (if fields.length = 1 then " element" else " elements")
    match positionFault? ("struct " ++ name ++ " with " ++ count) 0 fields values with
    | some e => .error e
    | none =>
      if fields.length < values.length then
        .error (.invalidLength values.length "fewer elements in array")
      else .ok fun name => ((fields.map Field.name).zip values).lookup name
  | value => .error (.invalidType value ("struct " ++ name))

/-- The value of a field, or its default where the field is absent. -/
def fieldOr {α : Type} (get : String → Option Json) (name : String) (default : α)
    (decode : Decoder α) : Except DecodeError α :=
  match get name with
  | some value => decode value
  | none => .ok default

end Decode

end Schemata
