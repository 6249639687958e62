import Schemata.Schema.Node

/-!
# Example numbers

* `Rules.exampleInteger`, `Rules.exampleNumber` : 42 and 42.5, moved between the bounds.

Both reckon with doubles.
-/

namespace Schemata

/-- The rounded sum with a small integer, which never leaves the finite range. -/
def Double.plus (x : Double) (n : Int) : Double := (x.add? (.ofInt n)).getD x

namespace Rules

def leastInteger (b : Bound) : Double :=
  let limit := b.limit.toDouble
  if b.exclusive then limit.floor.plus 1 else limit.ceil

def greatestInteger (b : Bound) : Double :=
  let limit := b.limit.toDouble
  if b.exclusive then limit.ceil.plus (-1) else limit.floor

/-- 42, raised to the least bound and then lowered to the greatest one, as a signed 64-bit integer. -/
def exampleInteger (rules : Rules) : Number :=
  let start := Double.ofNat 42
  let raised := match rules.minimum with
    | some b => start.max (leastInteger b)
    | none => start
  let lowered := match rules.maximum with
    | some b => raised.min (greatestInteger b)
    | none => raised
  .ofInt64 (lowered.toIntClamped (-0x8000000000000000) 0x7fffffffffffffff)

/-- The number is below a least bound, or at an exclusive one. -/
def isBelow (b : Bound) (x : Double) : Bool :=
  let limit := b.limit.toDouble
  x.units < limit.units || (b.exclusive && x.units ≤ limit.units)

/-- The number is above a greatest bound, or at an exclusive one. -/
def isAbove (b : Bound) (x : Double) : Bool :=
  let limit := b.limit.toDouble
  limit.units < x.units || (b.exclusive && limit.units ≤ x.units)

/-- The middle of two bounds, if their sum is finite. -/
def middle? (a b : Bound) : Option Double :=
  (a.limit.toDouble.add? b.limit.toDouble).map Double.half

/-- 42.5, moved to a bound that it breaks: between two bounds if there are two, and away from a single
exclusive one by 1. -/
def exampleNumber? (rules : Rules) : Option Double := do
  let start := (Double.ofNat 85).half
  let raised ← match rules.minimum with
    | none => some start
    | some low =>
      if isBelow low start then
        match rules.maximum with
        | some high => middle? low high
        | none =>
          let limit := low.limit.toDouble
          some (if low.exclusive then limit.plus 1 else limit)
      else some start
  match rules.maximum with
  | none => some raised
  | some high =>
    if isAbove high raised then
      match rules.minimum with
      | some low => middle? low high
      | none =>
        let limit := high.limit.toDouble
        some (if high.exclusive then limit.plus (-1) else limit)
    else some raised

end Rules

end Schemata
