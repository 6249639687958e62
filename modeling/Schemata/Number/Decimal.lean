import Schemata.Number.Double

/-!
# Shortest decimal text of a double

* `Decimal` : `digits · 10^(point - length + 1)`, the digits read as one natural number, `point` the
  decimal exponent of the first of them;
* `Double.shortest` : the decimal with the fewest digits that reads back as the same double, and of
  those with that many digits the nearest;
* `Double.text` : how a double is written, positional for decimal exponents `-5 .. 15`.
-/

namespace Schemata

/-- A positive decimal: `digits` has `length` digits, the first of them at `10^point`. -/
structure Decimal where
  digits : Nat
  length : Nat
  point : Int
  deriving DecidableEq, Inhabited

namespace Double

/-! ## The decimal grid around a double

A double of `m · 2^e` units is compared with a grid point `c · 10^p` by whole numbers: both sides
are multiplied by four units' worth of powers of two and, for a negative `p`, by `10^(-p)`. -/

/-- Twice the half-widths of the reals that round to `x`, on four-unit scale: below and above. -/
def halfWidths (x : Double) : Nat × Nat :=
  (if x.mant = 0x10000000000000 ∧ 0 < x.exp then 1 <<< x.exp else 2 <<< x.exp, 2 <<< x.exp)

/-- `c · 10^p` on the four-unit scale, and the factor by which the other side has to be scaled. -/
def gridPoint (c : Nat) (p : Int) : Nat × Nat :=
  if 0 ≤ p then (c * Nat.pow 10 p.toNat * (4 * one), 1) else (c * (4 * one), Nat.pow 10 (-p).toNat)

/-- The grid point `c · 10^p` reads back as `x`: it lies in the interval of reals that round to
`x`, whose ends belong to it when the mantissa is even. -/
def readsBack (x : Double) (c : Nat) (p : Int) : Bool :=
  let (point, scale) := gridPoint c p
  let (below, above) := x.halfWidths
  let lo := (4 * x.magnitude - below) * scale
  let hi := (4 * x.magnitude + above) * scale
  if x.mant % 2 = 0 then lo ≤ point && point ≤ hi else lo < point && point < hi

/-- The distance of the grid point `c · 10^p` from the absolute value of `x`. -/
def distance (x : Double) (c : Nat) (p : Int) : Nat :=
  let (point, scale) := gridPoint c p
  let value := 4 * x.magnitude * scale
  if point < value then value - point else point - value

/-- The power of ten `10^k` is at most the absolute value of `x`. -/
def atLeastPower (x : Double) (k : Int) : Bool :=
  let (point, scale) := gridPoint 1 k
  point ≤ 4 * x.magnitude * scale

/-- The decimal exponent of the absolute value of a nonzero double, from its binary exponent. -/
def decimalExponent (x : Double) : Int :=
  let binary : Int := (Nat.log2 x.magnitude : Int) - 1074
  let guess := (binary * 30103).fdiv 100000
  if !x.atLeastPower guess then guess - 1
  else if x.atLeastPower (guess + 1) then guess + 1
  else guess

/-- The nearer of the two grid points next to `x` among those that read back as `x`; of two
equally near ones the even one. -/
def onGrid? (x : Double) (p : Int) : Option Nat :=
  let c :=
    if 0 ≤ p then x.magnitude / (Nat.pow 10 p.toNat * one)
    else x.magnitude * Nat.pow 10 (-p).toNat / one
  match x.readsBack c p, x.readsBack (c + 1) p with
  | false, false => none
  | true, false => some c
  | false, true => some (c + 1)
  | true, true =>
    let below := x.distance c p
    let above := x.distance (c + 1) p
    if below < above then some c
    else if above < below then some (c + 1)
    else some (if c % 2 = 0 then c else c + 1)

/-- The first grid with a hit, from `length` digits on; 17 digits always read back. -/
def shortestFrom (x : Double) (k : Int) : (fuel length : Nat) → Decimal
  | 0, length => ⟨0, length, k⟩
  | fuel + 1, length =>
    match x.onGrid? (k - length + 1) with
    | some c =>
      if c = Nat.pow 10 length then ⟨1, 1, k + 1⟩ else ⟨c, length, k⟩
    | none => x.shortestFrom k fuel (length + 1)

/-- The shortest decimal that reads back as a nonzero double. -/
def shortest (x : Double) : Decimal := x.shortestFrom x.decimalExponent 17 1

/-! ## Text -/

/-- A positive decimal in positional notation, with at least one digit after the point. -/
def positional (d : Decimal) : String :=
  let digits := toString d.digits
  if d.point < 0 then
    "0." ++ "".pushn '0' (-d.point - 1).toNat ++ digits
  else
    let whole := d.point.toNat + 1
    if d.length ≤ whole then digits.pushn '0' (whole - d.length) ++ ".0"
    else
      let cs := digits.toList
      String.ofList (cs.take whole) ++ "." ++ String.ofList (cs.drop whole)

/-- A positive decimal as `d.ddde+16`; a single digit has no point. -/
def scientific (d : Decimal) : String :=
  let cs := (toString d.digits).toList
  let fraction := cs.drop 1
  String.ofList (cs.take 1) ++ (if fraction.isEmpty then "" else "." ++ String.ofList fraction)
    ++ (if d.point < 0 then "e-" else "e+") ++ toString d.point.natAbs

/-- A double is written with the fewest digits that read back, positional when its decimal exponent
is in `-5 .. 15`. -/
def text (x : Double) : String :=
  let body :=
    if x.mant = 0 then "0.0"
    else
      let d := x.shortest
      if -5 ≤ d.point ∧ d.point ≤ 15 then positional d else scientific d
  if x.neg then "-" ++ body else body

end Double

end Schemata
