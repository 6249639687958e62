/-!
# Sets of characters

* `CharSet` : a set of code points as ranges, from low to high, no two of them touching;
* `CharSet.ofRanges` : any ranges brought into that form;
* `union`, `inter`, `diff`, `symmDiff`, `compl` : the set operations; complements leave the
  surrogates out;
* `CharSet.decode` : the written form that the tables use.
-/

namespace Schemata

/-- A set of code points: disjoint ranges from low to high, ends included. -/
structure CharSet where
  ranges : List (Nat × Nat)
  deriving DecidableEq, Inhabited, Repr

namespace CharSet

def maxCode : Nat := 0x10FFFF

def empty : CharSet := ⟨[]⟩

def full : CharSet := ⟨[(0, maxCode)]⟩

def isEmpty (s : CharSet) : Bool := s.ranges.isEmpty

def containsCode (s : CharSet) (code : Nat) : Bool :=
  s.ranges.any fun r => r.1 ≤ code && code ≤ r.2

def contains (s : CharSet) (c : Char) : Bool := s.containsCode c.toNat

def isAscii (s : CharSet) : Bool := s.ranges.all fun r => r.2 < 128

/-- The only member, if there is just one. -/
def single? (s : CharSet) : Option Nat :=
  match s.ranges with
  | [(lo, hi)] => if lo = hi then some lo else none
  | _ => none

/-! ## Canonical form -/

/-- Add the range `lo .. hi` to ranges from low to high, joining those it touches. -/
def insertRange (lo hi : Nat) : List (Nat × Nat) → List (Nat × Nat)
  | [] => [(lo, hi)]
  | (x, y) :: rest =>
    if hi + 1 < x then (lo, hi) :: (x, y) :: rest
    else if y + 1 < lo then (x, y) :: insertRange lo hi rest
    else insertRange (Nat.min lo x) (Nat.max hi y) rest

/-- The set of the members of these ranges, in any order and overlapping or not. -/
def ofRanges (ranges : List (Nat × Nat)) : CharSet :=
  ⟨ranges.foldr (fun r joined => insertRange r.1 r.2 joined) []⟩

def singleton (code : Nat) : CharSet := ⟨[(code, code)]⟩

def ofChar (c : Char) : CharSet := singleton c.toNat

/-! ## Set operations -/

def union (a b : CharSet) : CharSet := ofRanges (a.ranges ++ b.ranges)

/-- The common part of one range with each range of a list. -/
def meet (lo hi : Nat) : List (Nat × Nat) → List (Nat × Nat)
  | [] => []
  | (x, y) :: rest =>
    if Nat.max lo x ≤ Nat.min hi y then (Nat.max lo x, Nat.min hi y) :: meet lo hi rest
    else meet lo hi rest

def inter (a b : CharSet) : CharSet := ofRanges (a.ranges.flatMap fun r => meet r.1 r.2 b.ranges)

/-- The code point after another, surrogates left out. -/
def next (code : Nat) : Nat := if code = 0xD7FF then 0xE000 else code + 1

/-- The code point before another, surrogates left out. -/
def previous (code : Nat) : Nat := if code = 0xE000 then 0xD7FF else code - 1

/-- What remains of one range without the ranges of a list, which go from low to high. -/
def without (lo hi : Nat) : List (Nat × Nat) → List (Nat × Nat)
  | [] => if lo ≤ hi then [(lo, hi)] else []
  | (x, y) :: rest =>
    if y < lo then without lo hi rest
    else if hi < x then if lo ≤ hi then [(lo, hi)] else []
    else (if lo < x then [(lo, previous x)] else []) ++
      (if y < hi then without (next y) hi rest else [])

def diff (a b : CharSet) : CharSet := ofRanges (a.ranges.flatMap fun r => without r.1 r.2 b.ranges)

def symmDiff (a b : CharSet) : CharSet := (a.union b).diff (a.inter b)

/-- All other characters up to a greatest one. -/
def complUpTo (greatest : Nat) (a : CharSet) : CharSet := ⟨without 0 greatest a.ranges⟩

def compl (a : CharSet) : CharSet := a.complUpTo maxCode

/-! ## Written form -/

def digitValue (c : Char) : Nat := if c.isDigit then c.toNat - 48 else c.toNat - 87

/-- The numbers written in a text, base 36, with a separator between them. -/
def numbers (separator : Char) (text : List Char) : List Nat :=
  let (done, last) := text.foldl
    (fun (done, n) c => if c = separator then (n :: done, 0) else (done, 36 * n + digitValue c))
    ([], 0)
  (last :: done).reverse

/-- The ranges from gaps and extents, `start` being the first code point not yet passed. -/
def rangesFrom (start : Nat) : List Nat → List (Nat × Nat)
  | gap :: extent :: rest =>
    (start + gap, start + gap + extent) :: rangesFrom (start + gap + extent + 1) rest
  | _ => []

/-- The set written in the lines of a table. -/
def decode (lines : List String) : CharSet :=
  ⟨rangesFrom 0 (lines.flatMap fun line => numbers ' ' line.toList)⟩

end CharSet

end Schemata
