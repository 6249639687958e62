import Schemata.Unicode.CharSet

/-!
# Expressions

The normal form of a pattern, without flags, groups that capture nothing, or names for sets.

* `Look` : the tests of a place; `Expr` : an expression;
* `Expr.ofSet`, `repeated`, `concatOf`, `alternationOf` : the ways to build one. They drop what is
  empty, join neighbouring literals, turn a choice of characters into a class, and take a common
  beginning out of all branches of a choice.
-/

namespace Schemata.Regex

/-- What a test of word characters asks: of both sides of a place, or of one only. -/
inductive WordTest where
  | boundary | notBoundary | start | stop | startHalf | stopHalf
  deriving DecidableEq, Repr

/-- A test of a place in a text. -/
inductive Look where
  | startText
  | endText
  /-- The begin of a line, lines ending with `\n` or, if `crlf`, with `\r` and `\r\n` too. -/
  | startLine (crlf : Bool)
  | endLine (crlf : Bool)
  | word (test : WordTest) (unicode : Bool)
  deriving DecidableEq, Repr

/-- An expression. `bytes` marks the classes written where characters are bytes; they hold ASCII
only. -/
inductive Expr where
  | empty
  | literal (chars : List Char)
  | charClass (bytes : Bool) (set : CharSet)
  | look (kind : Look)
  | repetition (min : Nat) (max : Option Nat) (greedy : Bool) (body : Expr)
  | capture (index : Nat) (body : Expr)
  | concat (parts : List Expr)
  | alternation (branches : List Expr)
  deriving Inhabited

namespace Expr

/-! ## Measures -/

/-- The number of bytes a code point takes in UTF-8. -/
def utf8Width (code : Nat) : Nat :=
  if code < 0x80 then 1 else if code < 0x800 then 2 else if code < 0x10000 then 3 else 4

mutual

def nodes : Expr → Nat
  | empty | literal _ | charClass _ _ | look _ => 1
  | repetition _ _ _ body | capture _ body => body.nodes + 1
  | concat parts | alternation parts => listNodes parts + 1

def listNodes : List Expr → Nat
  | [] => 0
  | e :: rest => e.nodes + listNodes rest

end

mutual

/-- The most bytes a match can take, if there is a bound and a match. -/
def maxBytes? : Expr → Option Nat
  | empty | look _ => some 0
  | literal chars => some (chars.map fun c => utf8Width c.toNat).sum
  | charClass _ set => set.ranges.getLast?.map fun r => utf8Width r.2
  | repetition _ max _ body => max.bind fun n => body.maxBytes?.map fun b => n * b
  | capture _ body => body.maxBytes?
  | concat parts => sumMaxBytes? parts
  | alternation branches => greatestMaxBytes? branches

def sumMaxBytes? : List Expr → Option Nat
  | [] => some 0
  | e :: rest => e.maxBytes?.bind fun a => (sumMaxBytes? rest).map fun b => a + b

def greatestMaxBytes? : List Expr → Option Nat
  | [] => some 0
  | e :: rest => e.maxBytes?.bind fun a => (greatestMaxBytes? rest).map fun b => Nat.max a b

end

/-! ## Equality -/

mutual

def same : Expr → Expr → Bool
  | empty, empty => true
  | literal a, literal b => a == b
  | charClass bytes a, charClass bytes' b => bytes == bytes' && a == b
  | look a, look b => a == b
  | repetition min max greedy a, repetition min' max' greedy' b =>
    min == min' && max == max' && greedy == greedy' && a.same b
  | capture i a, capture j b => i == j && a.same b
  | concat a, concat b => listSame a b
  | alternation a, alternation b => listSame a b
  | _, _ => false

def listSame : List Expr → List Expr → Bool
  | [], [] => true
  | x :: xs, y :: ys => x.same y && listSame xs ys
  | _, _ => false

end

/-! ## Construction -/

def fail : Expr := charClass true .empty

/-- A class; a single character becomes a literal. -/
def ofSet (bytes : Bool) (set : CharSet) : Expr :=
  if set.isEmpty then fail
  else
    match set.single? with
    | some code => literal [Char.ofNat code]
    | none => charClass bytes set

/-- A repetition. Where the body takes no text, once is as good as often. -/
def repeated (min : Nat) (max : Option Nat) (greedy : Bool) (body : Expr) : Expr :=
  let (min, max) :=
    if body.maxBytes? = some 0 then (Nat.min min 1, some (Nat.min (max.getD 1) 1)) else (min, max)
  if max = some 0 ∧ min = 0 then empty
  else if max = some 1 ∧ min = 1 then body
  else repetition min max greedy body

/-- What an expression contributes to a sequence. -/
def parts : Expr → List Expr
  | empty => []
  | concat parts => parts
  | e => [e]

def joinLiterals : List Expr → List Expr
  | [] => []
  | e :: rest =>
    match e, joinLiterals rest with
    | literal a, literal b :: joined => literal (a ++ b) :: joined
    | e, joined => e :: joined

def concatOf (subs : List Expr) : Expr :=
  match joinLiterals (subs.flatMap parts) with
  | [] => empty
  | [e] => e
  | parts => concat parts

/-- What an expression contributes to a choice. -/
def choices : Expr → List Expr
  | alternation branches => branches
  | e => [e]

def char? : Expr → Option Char
  | literal [c] => some c
  | _ => none

def set? : Expr → Option CharSet
  | charClass _ set => some set
  | _ => none

def concatParts? : Expr → Option (List Expr)
  | concat parts => some parts
  | _ => none

/-- The common beginning of two sequences. -/
def sharedPrefix : List Expr → List Expr → List Expr
  | x :: xs, y :: ys => if x.same y then x :: sharedPrefix xs ys else []
  | _, _ => []

/-- A choice; common beginnings are taken out at most `rounds` times. -/
def alternationWithin (rounds : Nat) (subs : List Expr) : Expr :=
  match subs.flatMap choices with
  | [] => fail
  | [e] => e
  | branches =>
    match branches.mapM char?, branches.mapM set? with
    | some chars, _ => ofSet false (.ofRanges (chars.map fun c => (c.toNat, c.toNat)))
    | _, some sets => ofSet false (.ofRanges (sets.flatMap (·.ranges)))
    | _, _ =>
      match rounds, branches.mapM concatParts? with
      | rounds + 1, some (first :: others) =>
        let shared := others.foldl sharedPrefix first
        if shared.isEmpty then alternation branches
        else
          let ends := (first :: others).map fun parts => concatOf (parts.drop shared.length)
          concatOf (shared ++ [alternationWithin rounds ends])
      | _, _ => alternation branches

/-- A choice. Each common beginning taken out leaves fewer nodes, so their number is bound enough. -/
def alternationOf (subs : List Expr) : Expr := alternationWithin (listNodes subs) subs

end Expr

end Schemata.Regex
