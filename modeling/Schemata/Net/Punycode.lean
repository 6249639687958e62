/-!
# Punycode

* `Punycode.decode?` : the code points of a label written in ASCII: the ASCII characters first, and
  behind the last hyphen where the others go, as differences of variable length.
-/

namespace Schemata.Net.Punycode

def digit? (c : Char) : Option Nat :=
  if c.isAlpha then some (c.toLower.toNat - 97)
  else if c.isDigit then some (c.toNat - 22)
  else none

/-- The least value of the digit that ends a number, for a digit at place `k`. -/
def threshold (k bias : Nat) : Nat :=
  if k ≤ bias then 1 else if bias + 26 ≤ k then 26 else k - bias

/-- Divide by 35 until the result is small; the number of bits bounds the rounds. -/
def reduce : Nat → Nat → Nat → Nat × Nat
  | 0, delta, k => (delta, k)
  | rounds + 1, delta, k => if 455 < delta then reduce rounds (delta / 35) (k + 36) else (delta, k)

/-- The bias for the next number. -/
def adapt (delta count : Nat) (isFirst : Bool) : Nat :=
  let delta := if isFirst then delta / 700 else delta / 2
  let (delta, k) := reduce 64 (delta + delta / count) 0
  k + 36 * delta / (delta + 38)

/-- A number is being read: what it adds up to so far, the weight of the next digit, its place. -/
structure Reading where
  index : Nat
  weight : Nat
  place : Nat

/-- The label after the digits, `code` being the last code point put in and `start` the place behind
it. A number that is not finished makes the label invalid. -/
def run (label : List Nat) (code bias start : Nat) (reading : Option Reading) :
    List Char → Option (List Nat)
  | [] => if reading.isNone then some label else none
  | c :: rest => do
    let digit ← digit? c
    let r := reading.getD ⟨start, 1, 36⟩
    let index := r.index + digit * r.weight
    let t := threshold r.place bias
    if 0x100000000 ≤ index then none
    else if t ≤ digit then
      run label code bias start (some ⟨index, r.weight * (36 - t), r.place + 36⟩) rest
    else
      let count := label.length + 1
      let code := code + index / count
      let slot := index % count
      if 0x10FFFF < code ∨ (0xD800 ≤ code ∧ code ≤ 0xDFFF) then none
      else
        run (label.take slot ++ code :: label.drop slot) code (adapt (index - start) count (start == 0))
          (slot + 1) none rest

/-- The last hyphen splits a label into ASCII and digits; a hyphen in front splits nothing. -/
def split (label : List Char) : List Char × List Char :=
  let digits := (label.reverse.takeWhile (· ≠ '-')).reverse
  let ascii := label.take (label.length - digits.length - 1)
  if ascii.isEmpty then ([], label) else (ascii, digits)

/-- The code points of a label, which is written without its leading `xn--`. -/
def decode? (label : List Char) : Option (List Nat) :=
  let (ascii, digits) := split label
  run (ascii.map Char.toNat) 128 72 0 none digits

end Schemata.Net.Punycode
