import Schemata.Regex.Expr

/-!
# The size of an automaton

A pattern is refused if the automaton that reads a text byte by byte, forward or backward, would
take more than `sizeLimit` bytes. It is counted here and never built.

* `Utf8.sequences` : the byte ranges that make up a range of code points;
* `Utf8.forwardCost`, `Utf8.backwardCost` : the states for a class of characters;
* `Expr.automatonSize` : the whole automaton.
-/

namespace Schemata.Regex

/-- The bytes a state takes; lists of successors come on top. -/
def stateCost : Nat := 32

/-- The bytes of a successor in a list. -/
def alternateCost : Nat := 4

/-- The bytes of a successor with its range of bytes. -/
def transitionCost : Nat := 8

namespace Utf8

abbrev Sequence := List (Nat × Nat)

/-- The values `lo .. hi` in digits of six bits below a leading one, split so that in each piece the
digits vary independently. `tag` is what the leading byte carries on top of its digit. -/
def pieces (tag : Nat) : Nat → Nat → Nat → List Sequence
  | 0, lo, hi => [[(tag + lo, tag + hi)]]
  | k + 1, lo, hi =>
    let m := Nat.pow 64 (k + 1)
    let full : Sequence := List.replicate (k + 1) (0x80, 0xBF)
    let below (digit lo hi : Nat) : List Sequence :=
      (pieces 0x80 k lo hi).map fun s => (tag + digit, tag + digit) :: s
    let a := lo / m
    let b := hi / m
    if a = b then
      if lo % m = 0 ∧ hi % m = m - 1 then [(tag + a, tag + a) :: full]
      else below a (lo % m) (hi % m)
    else
      let first := if lo % m = 0 then a else a + 1
      let last := if hi % m = m - 1 then b else b - 1
      (if lo % m = 0 then [] else below a (lo % m) (m - 1))
        ++ (if first ≤ last then [(tag + first, tag + last) :: full] else [])
        ++ (if hi % m = m - 1 then [] else below b 0 (hi % m))

/-- The common part of a range with the code points of one width. -/
def clip (lo hi : Nat) (range : Nat × Nat) : List (Nat × Nat) :=
  let a := Nat.max lo range.1
  let b := Nat.min hi range.2
  if a ≤ b then [(a, b)] else []

/-- The byte ranges that make up a range of code points, from low to high. -/
def sequences (range : Nat × Nat) : List Sequence :=
  (clip 0 0x7F range).flatMap (fun r => pieces 0 0 r.1 r.2)
    ++ (clip 0x80 0x7FF range).flatMap (fun r => pieces 0xC0 1 r.1 r.2)
    ++ (clip 0x800 0xD7FF range).flatMap (fun r => pieces 0xE0 2 r.1 r.2)
    ++ (clip 0xE000 0xFFFF range).flatMap (fun r => pieces 0xE0 2 r.1 r.2)
    ++ (clip 0x10000 0x10FFFF range).flatMap (fun r => pieces 0xF0 3 r.1 r.2)

/-- The different nodes seen so far, each with the ranges and numbers of its successors; the number
of a node is its distance from the end of the list plus one, and 0 is the accepting state. -/
abbrev Nodes := List (List (Nat × Nat × Nat))

/-- The number of a node among others, added if it is new. -/
def intern (node : List (Nat × Nat × Nat)) (seen : Nodes) : Nat × Nodes :=
  match seen.findIdx? (· == node) with
  | some i => (seen.length - i, seen)
  | none => (seen.length + 1, node :: seen)

/-- Sequences grouped by their first range; neighbours with the same one share a group. -/
def groups : List Sequence → List ((Nat × Nat) × List Sequence)
  | [] => []
  | s :: rest =>
    match s, groups rest with
    | [], grouped => grouped
    | r :: tail, (r', tails) :: grouped =>
      if r = r' then (r, tail :: tails) :: grouped else (r, [tail]) :: (r', tails) :: grouped
    | r :: tail, [] => [(r, [tail])]

/-- The node of sequences of at most `depth` ranges, with all nodes behind it. -/
def build : Nat → List Sequence → Nodes → Nat × Nodes
  | 0, _, seen => (0, seen)
  | depth + 1, seqs, seen =>
    match groups seqs with
    | [] => (0, seen)
    | grouped =>
      let (node, seen) := grouped.foldl
        (fun (node, seen) group =>
          let (id, seen) := build depth group.2 seen
          (node ++ [(group.1.1, group.1.2, id)], seen))
        ([], seen)
      intern node seen

/-- The states that read the characters of a set forward: equal ends are shared. -/
def forwardCost (set : CharSet) : Nat :=
  let (_, seen) := build 4 (set.ranges.flatMap sequences) []
  seen.foldl (fun total node => total + stateCost + transitionCost * node.length) stateCost

/-- The number of ranges with which two sequences begin alike. -/
def sharedLength : Sequence → Sequence → Nat
  | a :: s, b :: t => if a = b then sharedLength s t + 1 else 0
  | _, _ => 0

/-- The number of different beginnings of sequences from low to high, `before` being the one in
front of them. Sequences that begin alike are neighbours. -/
def beginnings (before : Sequence) : List Sequence → Nat
  | [] => 0
  | s :: rest => (s.length - sharedLength before s) + beginnings s rest

/-- The states that read the characters of a set backward: equal beginnings are shared. -/
def backwardCost (set : CharSet) : Nat :=
  let seqs := set.ranges.flatMap sequences
  2 * stateCost + alternateCost * seqs.length + stateCost * beginnings [] seqs

end Utf8

/-- The states of a class. ASCII takes one state with a list of ranges, and its end. -/
def classCost (forward : Bool) (set : CharSet) : Nat :=
  if set.isAscii then 2 * stateCost + transitionCost * set.ranges.length
  else if forward then Utf8.forwardCost set else Utf8.backwardCost set

namespace Expr

mutual

/-- Every match takes at least one character. -/
def isLong : Expr → Bool
  | empty | look _ => false
  | literal chars => !chars.isEmpty
  | charClass _ set => !set.isEmpty
  | repetition min _ _ body => 0 < min && body.isLong
  | capture _ body => body.isLong
  | concat parts => anyLong parts
  | alternation branches => allLong branches

def anyLong : List Expr → Bool
  | [] => false
  | e :: rest => e.isLong || anyLong rest

def allLong : List Expr → Bool
  | [] => true
  | e :: rest => e.isLong && allLong rest

end

/-- The states of a repetition whose body takes `body` bytes. -/
def repetitionCost (min : Nat) (max : Option Nat) (isLong : Bool) (body : Nat) : Nat :=
  let fork := stateCost + 2 * alternateCost
  match min, max with
  | 0, none => if isLong then fork + body else 2 * fork + stateCost + body
  | n + 1, none => (n + 1) * body + fork
  | 0, some 1 => fork + body + stateCost
  | min, some max =>
    let once := if min = 0 then stateCost else min * body
    if min = max then once else once + stateCost + (max - min) * (fork + body)

mutual

/-- The bytes of the states of an expression. Groups are kept only by the forward automaton. -/
def cost (forward : Bool) : Expr → Nat
  | empty | look _ => stateCost
  | literal chars => stateCost * (chars.map fun c => utf8Width c.toNat).sum
  | charClass _ set => classCost forward set
  | repetition min max _ body => repetitionCost min max body.isLong (body.cost forward)
  | capture _ body => body.cost forward + (if forward then 2 * stateCost else 0)
  | concat parts => listCost forward parts
  | alternation branches =>
    2 * stateCost + alternateCost * branches.length + listCost forward branches

def listCost (forward : Bool) : List Expr → Nat
  | [] => 0
  | e :: rest => e.cost forward + listCost forward rest

end

/-- The bytes of the larger automaton, with the states around the expression: the loop that looks
for the begin of a match, the group of the whole, and the accepting state. -/
def automatonSize (e : Expr) : Nat :=
  let around := 3 * stateCost + 2 * alternateCost
  Nat.max (around + e.cost true + 2 * stateCost) (around + e.cost false)

end Expr

end Schemata.Regex
