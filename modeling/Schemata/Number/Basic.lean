import Schemata.Number.Decimal

/-!
# Numbers of a JSON text

* `Number` : an integer of `-2^63 .. 2^64 - 1`, or a double; the spelling decides which, so `1` and
  `1.0` are different numbers of equal value;
* `Number.compare` : the order of the values, exact where both integers fit one 64-bit word and by
  rounding to doubles otherwise;
* `Number.text` : how a number is written.
-/

namespace Schemata

inductive Number where
  | integer (value : Int) (range : -0x8000000000000000 ≤ value ∧ value < 0x10000000000000000)
  | double (value : Double)
  deriving DecidableEq

namespace Number

/-- The integer, where it is in the range of 64-bit words. -/
def ofInt? (n : Int) : Option Number :=
  if h : -0x8000000000000000 ≤ n ∧ n < 0x10000000000000000 then some (.integer n h) else none

/-- A natural number, clamped to the largest 64-bit word. -/
def ofNat (n : Nat) : Number :=
  if h : n < 0x10000000000000000 then .integer n (by omega) else .integer 0xffffffffffffffff (by decide)

/-- A signed 64-bit integer, clamped to its range. -/
def ofInt64 (n : Int) : Number :=
  if h : -0x8000000000000000 ≤ n ∧ n < 0x8000000000000000 then .integer n (by omega)
  else if n < 0 then .integer (-0x8000000000000000) (by decide) else .integer 0x7fffffffffffffff (by decide)

instance : Inhabited Number := ⟨ofNat 0⟩

def toDouble : Number → Double
  | .integer n _ => Double.ofInt n
  | .double x => x

def isIntegral : Number → Bool
  | .integer _ _ => true
  | .double x => x.isIntegral

/-- The value as a natural number, for integers that are one. -/
def toNat? : Number → Option Nat
  | .integer n _ => if 0 ≤ n then some n.toNat else none
  | .double _ => none

/-- The order of the values. Two integers are compared exactly when both are below `2^63` or both
are not negative; every other pair is compared by the nearest doubles. -/
def compare : Number → Number → Ordering
  | .integer a _, .integer b _ =>
    if (a < 0x8000000000000000 ∧ b < 0x8000000000000000) ∨ (0 ≤ a ∧ 0 ≤ b) then Ord.compare a b
    else (Double.ofInt a).compare (Double.ofInt b)
  | x, y => x.toDouble.compare y.toDouble

/-- Same kind and same value; the two zeros of a double have the same value. -/
def same : Number → Number → Bool
  | .integer a _, .integer b _ => a == b
  | .double x, .double y => x.units == y.units
  | _, _ => false

/-- An integer is written in decimal, a double by its shortest text. -/
def text : Number → String
  | .integer n _ => toString n
  | .double x => x.text

end Number

end Schemata
