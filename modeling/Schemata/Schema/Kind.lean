import Schemata.Json.Basic

/-!
# Kinds of values

* `Kind` : what the keyword `type` names;
* `Kind.accepts` : a value is of the kind. An unknown name stands for every value.
-/

namespace Schemata

inductive Kind where
  | object | array | string | number | integer | boolean | null
  | other (tag : String)
  deriving DecidableEq, Repr

namespace Kind

def ofTag (tag : String) : Kind :=
  match tag with
  | "object" => object
  | "array" => array
  | "string" => string
  | "number" => number
  | "integer" => integer
  | "boolean" => boolean
  | "null" => null
  | tag => other tag

def tag : Kind → String
  | object => "object"
  | array => "array"
  | string => "string"
  | number => "number"
  | integer => "integer"
  | boolean => "boolean"
  | null => "null"
  | other tag => tag

def isUnknown : Kind → Bool
  | other _ => true
  | _ => false

/-- The value is of the kind; a number is an integer if it has no fractional part. -/
def accepts : Kind → Json → Bool
  | object, .object _ => true
  | array, .array _ => true
  | string, .string _ => true
  | number, .number _ => true
  | integer, .number n => n.isIntegral
  | boolean, .bool _ => true
  | null, .null => true
  | other _, _ => true
  | _, _ => false

end Kind

end Schemata
