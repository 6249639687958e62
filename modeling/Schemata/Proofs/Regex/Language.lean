import Mathlib.Computability.Language
import Schemata.Regex.Expr

/-!
# The language of an expression

* `Expr.leaves` : a test of all leaves of an expression; `Expr.isProper` : every class has proper ranges;
  `Expr.isLookFree` : no test of a place occurs;
* `Expr.language` : the texts that an expression stands for;
* `listProduct_append` : the language of a sequence is the product of those of its two halves.
-/

namespace Schemata

/-- Every range goes upwards and begins with a character. -/
def CharSet.isProper (set : CharSet) : Bool :=
  set.ranges.all fun r => decide (r.1 ≤ r.2 ∧ r.1.isValidChar)

namespace Regex.Expr

/-! ## Leaves -/

mutual

/-- All leaves of an expression pass a test. -/
def leaves (test : Expr → Bool) : Expr → Bool
  | empty => test .empty
  | literal chars => test (.literal chars)
  | charClass bytes set => test (.charClass bytes set)
  | look kind => test (.look kind)
  | repetition _ _ _ body => body.leaves test
  | capture _ body => body.leaves test
  | concat parts => listLeaves test parts
  | alternation branches => listLeaves test branches

def listLeaves (test : Expr → Bool) : List Expr → Bool
  | [] => true
  | e :: rest => e.leaves test && listLeaves test rest

end

def isProper (e : Expr) : Bool :=
  e.leaves fun
    | charClass _ set => set.isProper
    | _ => true

def isLookFree (e : Expr) : Bool :=
  e.leaves fun
    | look _ => false
    | _ => true

theorem listLeaves_eq_true {test : Expr → Bool} {parts : List Expr} :
    listLeaves test parts = true ↔ ∀ e ∈ parts, e.leaves test = true := by
  induction parts with
  | nil => simp [listLeaves]
  | cons e rest ih => simp [listLeaves, ih]

/-! ## Languages -/

mutual

/-- The texts that an expression stands for. A test takes no text. Of a class of bytes only the ASCII ones
are texts of their own. The least count is always allowed, a greatest one bounds the counts above it. -/
def language : Expr → Language Char
  | empty | look _ => 1
  | literal chars => {chars}
  | charClass bytes set => {text | ∃ c, text = [c] ∧ set.contains c ∧ (bytes → c.toNat < 128)}
  | repetition min max _ body =>
    {text | ∃ n, min ≤ n ∧ (∀ most ∈ max, n = min ∨ n ≤ most) ∧ text ∈ body.language ^ n}
  | capture _ body => body.language
  | concat parts => listProduct parts
  | alternation branches => listSum branches

def listProduct : List Expr → Language Char
  | [] => 1
  | e :: rest => e.language * listProduct rest

def listSum : List Expr → Language Char
  | [] => 0
  | e :: rest => e.language + listSum rest

end

theorem mem_language_repetition {min : Nat} {max : Option Nat} {greedy : Bool} {body : Expr} {text : List Char} :
    text ∈ (repetition min max greedy body).language ↔
      ∃ n, min ≤ n ∧ (∀ most ∈ max, n = min ∨ n ≤ most) ∧ text ∈ body.language ^ n := by
  rw [language]
  rfl

theorem mem_language_charClass {bytes : Bool} {set : CharSet} {text : List Char} :
    text ∈ (charClass bytes set).language ↔ ∃ c, text = [c] ∧ set.contains c ∧ (bytes → c.toNat < 128) := by
  rw [language]
  rfl

theorem listProduct_append (front back : List Expr) :
    listProduct (front ++ back) = listProduct front * listProduct back := by
  induction front with
  | nil => rw [List.nil_append, listProduct, one_mul]
  | cons e rest ih => rw [List.cons_append, listProduct, ih, listProduct, mul_assoc]

end Regex.Expr

end Schemata
