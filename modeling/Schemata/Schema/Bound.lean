import Schemata.Number.Basic

/-!
# Bounds of numbers

* `Bound` : a limit, which may itself be excluded;
* `Bound.rejectsBelow`, `Bound.rejectsAbove` : a number is out of bounds, the bound being a least or
  a greatest one.
-/

namespace Schemata

/-- A limit for numbers; if `exclusive`, the limit itself is out of bounds. -/
structure Bound where
  limit : Number
  exclusive : Bool
  deriving DecidableEq

namespace Bound

def rejectsBelow (b : Bound) (n : Number) : Bool :=
  match n.compare b.limit with
  | .lt => true
  | .eq => b.exclusive
  | .gt => false

def rejectsAbove (b : Bound) (n : Number) : Bool :=
  match n.compare b.limit with
  | .gt => true
  | .eq => b.exclusive
  | .lt => false

/-- Same limit, of the same kind, and both exclusive or neither. -/
def same (a b : Bound) : Bool := a.limit.same b.limit && a.exclusive == b.exclusive

end Bound

end Schemata
