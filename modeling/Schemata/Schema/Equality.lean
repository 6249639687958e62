import Schemata.Json.Equality
import Schemata.Schema.Node

/-!
# Equality of schemas

* `Rules.same`, `Node.same` : the same in every part. Numbers are the same if their kinds and values
  are, allowed values do not depend on the order of members, and patterns are the same if their
  sources are.
-/

namespace Schemata

/-- Equality of parts that may be absent. -/
def sameOption {α : Type} (same : α → α → Bool) : Option α → Option α → Bool
  | none, none => true
  | some a, some b => same a b
  | _, _ => false

/-- Equality of lists, item by item. -/
def sameList {α : Type} (same : α → α → Bool) : List α → List α → Bool
  | [], [] => true
  | a :: as, b :: bs => same a b && sameList same as bs
  | _, _ => false

def Rules.same (a b : Rules) : Bool :=
  a.kind == b.kind && a.nullable == b.nullable && a.format == b.format && a.pattern == b.pattern
    && sameOption (sameList Json.same) a.allowed b.allowed
    && a.minLength == b.minLength && a.maxLength == b.maxLength
    && sameOption Bound.same a.minimum b.minimum && sameOption Bound.same a.maximum b.maximum
    && a.required == b.required && a.description == b.description && a.deprecated == b.deprecated

namespace Node

mutual

def same : Node → Node → Bool
  | .reference s, .reference t => s == t
  | .schema r p i a c, .schema r' p' i' a' c' =>
    r.same r' && sameProperties p p' && sameItems i i' && sameAdditional a a'
      && sameCombinations c c'
  | _, _ => false

def sameProperties : List (String × Node) → List (String × Node) → Bool
  | [], [] => true
  | (k, a) :: as, (l, b) :: bs => k == l && a.same b && sameProperties as bs
  | _, _ => false

def sameItems : Option Node → Option Node → Bool
  | none, none => true
  | some a, some b => a.same b
  | _, _ => false

def sameAdditional : Additional Node → Additional Node → Bool
  | .open, .open => true
  | .forbidden, .forbidden => true
  | .constrained a, .constrained b => a.same b
  | _, _ => false

def sameCombinations : List (Combinator × List Node) → List (Combinator × List Node) → Bool
  | [], [] => true
  | (k, as) :: rest, (l, bs) :: rest' => k == l && sameNodes as bs && sameCombinations rest rest'
  | _, _ => false

def sameNodes : List Node → List Node → Bool
  | [], [] => true
  | a :: as, b :: bs => a.same b && sameNodes as bs
  | _, _ => false

end

end Node

end Schemata
