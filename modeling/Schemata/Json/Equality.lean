import Schemata.Json.Basic

/-!
# Equality of values

Two relations ignore the order of members and differ in the numbers only:

* `Json.equal` : numbers by value, so `1` equals `1.0`; it decides membership in an `enum`;
* `Json.same` : numbers by kind and value; it decides whether two schemas are the same.
-/

namespace Schemata.Json

mutual

/-- Equality up to the order of members, numbers compared by `eqv`. -/
def equalBy (eqv : Number → Number → Bool) : Json → Json → Bool
  | .null, .null => true
  | .bool a, .bool b => a == b
  | .number a, .number b => eqv a b
  | .string a, .string b => a == b
  | .array a, .array b => equalItemsBy eqv a b
  | .object a, .object b => a.length == b.length && coversBy eqv a b
  | _, _ => false

def equalItemsBy (eqv : Number → Number → Bool) : List Json → List Json → Bool
  | [], [] => true
  | x :: xs, y :: ys => x.equalBy eqv y && equalItemsBy eqv xs ys
  | _, _ => false

/-- Every member of the first list has an equal one of the same name in the second. -/
def coversBy (eqv : Number → Number → Bool) :
    List (String × Json) → List (String × Json) → Bool
  | [], _ => true
  | (k, x) :: xs, ys =>
    (match ys.lookup k with
      | some y => x.equalBy eqv y
      | none => false) && coversBy eqv xs ys

end

/-- Equality with numbers by value. -/
def equal (a b : Json) : Bool := a.equalBy (fun m n => m.compare n == .eq) b

/-- Equality with numbers by kind and value. -/
def same (a b : Json) : Bool := a.equalBy Number.same b

end Schemata.Json
