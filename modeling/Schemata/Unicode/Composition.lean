import Schemata.Unicode.CharSet
import Schemata.Unicode.Composite

/-!
# Composed texts

* `Unicode.decomposed`, `Unicode.composed?` : what a character is composed of, and what two are composed to;
* `Unicode.ordered` : the marks behind a letter in the order of their classes;
* `Unicode.composed` : a text in its composed form.

Two ways to write the same letters have the same composed form.
-/

namespace Schemata.Unicode

/-! ## Tables -/

/-- The numbers of each entry in the lines of a table. -/
def entries (lines : List String) : List (List Nat) :=
  (lines.flatMap fun line => line.splitOn " ").map fun entry => CharSet.numbers '.' entry.toList

def compositesFrom (start : Nat) : List (List Nat) → List (Nat × List Nat)
  | (gap :: parts) :: rest => (start + gap, parts) :: compositesFrom (start + gap + 1) rest
  | _ => []

/-- The composed characters and their parts, decoded once. -/
def compositeParts : List (Nat × List Nat) := compositesFrom 0 (entries composites)

def classSets : List (Nat × CharSet) :=
  combiningClasses.map fun entry => (entry.1, CharSet.decode entry.2)

/-- Marks have a class above 0. Only marks of different classes may change places. -/
def combiningClass (code : Nat) : Nat :=
  ((classSets.find? fun entry => entry.2.containsCode code).map Prod.fst).getD 0

/-! ## Parts -/

/-- Hangul has a syllable for each of 19 initial consonants, 21 vowels and 27 final consonants or none. -/
def decomposed (code : Nat) : List Nat :=
  if 0xAC00 ≤ code ∧ code < 0xD7A4 then
    let index := code - 0xAC00
    let start := [0x1100 + index / 588, 0x1161 + index % 588 / 28]
    if index % 28 = 0 then start else start ++ [0x11A7 + index % 28]
  else (compositeParts.lookup code).getD [code]

def composed? (first second : Nat) : Option Nat :=
  if 0x1100 ≤ first ∧ first < 0x1113 ∧ 0x1161 ≤ second ∧ second < 0x1176 then
    some (0xAC00 + 588 * (first - 0x1100) + 28 * (second - 0x1161))
  else if 0xAC00 ≤ first ∧ first < 0xD7A4 ∧ (first - 0xAC00) % 28 = 0
      ∧ 0x11A8 ≤ second ∧ second < 0x11C3 then
    some (first + (second - 0x11A7))
  else
    let parts := decomposed first ++ [second]
    (compositeParts.find? fun entry => entry.2 = parts).map Prod.fst

/-! ## Texts -/

/-- A code point in front of others, moved behind the marks that come first by their classes. -/
def insertOrdered (code : Nat) : List Nat → List Nat
  | [] => [code]
  | next :: rest =>
    if 0 < combiningClass next && combiningClass next < combiningClass code then
      next :: insertOrdered code rest
    else code :: next :: rest

def ordered (codes : List Nat) : List Nat := codes.foldr insertOrdered []

/-- Compose a letter with what follows it. A mark reaches the letter past the marks between them, all of
lower classes; a letter does only directly. -/
def composeFrom (letter : Nat) (marks : List Nat) : List Nat → List Nat
  | [] => letter :: marks
  | code :: rest =>
    let reaches := marks.getLast?.all fun mark => combiningClass mark < combiningClass code
    match if reaches then composed? letter code else none with
    | some composed => composeFrom composed marks rest
    | none =>
      if combiningClass code = 0 then letter :: marks ++ composeFrom code [] rest
      else composeFrom letter (marks ++ [code]) rest

/-- The composed form of a text. Marks at its begin have no letter; ASCII stays as it is. -/
def composed (codes : List Nat) : List Nat :=
  if codes.all (· < 128) then codes
  else
    let parts := ordered (codes.flatMap decomposed)
    let front := parts.takeWhile fun code => 0 < combiningClass code
    match parts.drop front.length with
    | [] => front
    | letter :: rest => front ++ composeFrom letter [] rest

end Schemata.Unicode
