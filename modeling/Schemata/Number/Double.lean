/-!
# Binary64 numbers, exactly

* `Double` : a finite binary64 number, `± mant · 2^exp` units, one unit being the least positive
  double `2^(-1074)`; the bounds of the format are proof fields, so equal fields are equal doubles;
* `Double.units` : the value as an integer count of units; `compare` is the order of `units`;
* `Double.round?` : the nearest double to a quotient of naturals, a tie going to the even mantissa;
  `Double.ofDecimal?` is that of decimal digits with an exponent;
* `add?`, `mul?`, `div?`, `half`, `floor`, `ceil` : arithmetic, one rounding each, `none` where the
  result leaves the finite range.

All of it is arithmetic on `Nat` and `Int`.
-/

namespace Schemata

/-- A finite binary64 number: `± mant · 2^exp` units of `2^(-1074)`. -/
structure Double where
  neg : Bool
  mant : Nat
  exp : Nat
  mant_lt : mant < 0x20000000000000
  normal : exp = 0 ∨ 0x10000000000000 ≤ mant
  exp_le : exp ≤ 2045
  deriving DecidableEq

namespace Double

/-! ## Value and order -/

def magnitude (x : Double) : Nat := x.mant <<< x.exp

/-- The value in units of `2^(-1074)`; both zeros have value `0`. -/
def units (x : Double) : Int := if x.neg then -(x.magnitude : Int) else x.magnitude

/-- The order of the values; the two zeros are equal. -/
def compare (x y : Double) : Ordering := Ord.compare x.units y.units

/-- The number of units in `1`. -/
def one : Nat := 1 <<< 1074

def isIntegral (x : Double) : Bool := x.magnitude % one == 0

/-- The value without its fractional part, rounded toward zero. -/
def truncate (x : Double) : Int :=
  if x.neg then -((x.magnitude / one : Nat) : Int) else (x.magnitude / one : Nat)

/-! ## Construction -/

instance : Inhabited Double := ⟨⟨false, 0, 0, by decide, .inl rfl, by decide⟩⟩

def zero (neg : Bool) : Double := ⟨neg, 0, 0, by decide, .inl rfl, by decide⟩

def largest (neg : Bool) : Double := ⟨neg, 0x1fffffffffffff, 2045, by decide, .inr (by decide), by decide⟩

/-- The double with these fields, if the format has it. -/
def ofFields? (neg : Bool) (mant exp : Nat) : Option Double :=
  if h : mant < 0x20000000000000 ∧ (exp = 0 ∨ 0x10000000000000 ≤ mant) ∧ exp ≤ 2045 then
    some ⟨neg, mant, exp, h.1, h.2.1, h.2.2⟩
  else none

/-- `num / den` to the nearest natural, a half going to the even one. -/
def roundDiv (num den : Nat) : Nat :=
  let q := num / den
  let r := num % den
  if 2 * r < den then q
  else if den < 2 * r then q + 1
  else if q % 2 = 0 then q else q + 1

/-- The exponent of the binade of `q` units: the least for which `q` keeps at most 53 bits. -/
def binade (q : Nat) : Nat := if q < 0x20000000000000 then 0 else Nat.log2 q - 52

/-- The double nearest to `num / den` units, `none` beyond the finite range. -/
def round? (neg : Bool) (num den : Nat) : Option Double :=
  let e := binade (num / den)
  let m := roundDiv num (den <<< e)
  if m = 0x20000000000000 then ofFields? neg 0x10000000000000 (e + 1) else ofFields? neg m e

/-- The double nearest to an integer, clamped to the finite range. -/
def ofInt (n : Int) : Double :=
  (round? (n < 0) (n.natAbs * one) 1).getD (largest (n < 0))

def ofNat (n : Nat) : Double := ofInt n

/-! ## Arithmetic -/

/-- The opposite number; the sign of a zero changes too. -/
def negate (x : Double) : Double := { x with neg := !x.neg }

/-- The rounded sum. An exact zero is negative only as the sum of two negative zeros. -/
def add? (x y : Double) : Option Double :=
  let sum := x.units + y.units
  if sum = 0 then some (zero (x.neg && y.neg)) else round? (sum < 0) sum.natAbs 1

def mul? (x y : Double) : Option Double :=
  round? (x.neg != y.neg) (x.magnitude * y.magnitude) one

/-- The rounded quotient, `none` for a zero divisor. -/
def div? (x y : Double) : Option Double :=
  if y.magnitude = 0 then none
  else round? (x.neg != y.neg) (x.magnitude * one) y.magnitude

/-- Half of a number, rounded; halving never leaves the finite range. -/
def half (x : Double) : Double := (round? x.neg x.magnitude 2).getD x

/-- The greatest integral double that is not above `x`. -/
def floor (x : Double) : Double :=
  if x.isIntegral then x
  else if x.neg then ofInt (x.truncate - 1)
  else ofInt x.truncate

/-- The least integral double that is not below `x`; above `-1` and below `0` it is negative zero. -/
def ceil (x : Double) : Double :=
  if x.isIntegral then x
  else if x.neg then
    if x.truncate = 0 then zero true else ofInt x.truncate
  else ofInt (x.truncate + 1)

/-- The greater of two numbers, the first when they are equal. -/
def max (x y : Double) : Double := if x.units < y.units then y else x

/-- The smaller of two numbers, the first when they are equal. -/
def min (x y : Double) : Double := if y.units < x.units then y else x

/-- The integral part, clamped to `lo ≤ · ≤ hi`. -/
def toIntClamped (lo hi : Int) (x : Double) : Int :=
  if x.truncate < lo then lo else if hi < x.truncate then hi else x.truncate

/-- The double nearest to a power of ten, `none` above the finite range. -/
def powerOfTen? (n : Nat) : Option Double := round? false (Nat.pow 10 n * one) 1

/-- The double nearest to `digits * 10 ^ exponent`, `none` above the finite range. What lies far outside
the range is not computed. -/
def ofDecimal? (neg : Bool) (digits : Nat) (exponent : Int) : Option Double :=
  if digits = 0 then some (zero neg)
  else if 400 < exponent then none
  else if exponent < -(400 + Nat.log2 digits : Int) then some (zero neg)
  else round? neg (digits * Nat.pow 10 exponent.toNat * one) (Nat.pow 10 (-exponent).toNat)

end Double

end Schemata
