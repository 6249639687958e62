import Schemata.Regex.Expr
import Schemata.Unicode.Property

/-!
# Matching

A set of places of a text is a number: bit `p` stands for the place before the character `p`, and
the last bit for the end.

* `Look.holds` : a test of a place, by the characters on both sides;
* `Plan` : an expression over one text, its characters and tests replaced by the places they hold at;
* `Plan.run` : the places that a plan can lead to from a set of places;
* `Expr.isMatch` : some part of a text matches.
-/

namespace Schemata.Regex

/-! ## Tests of a place -/

/-- A word character; ASCII only unless `unicode`. No character is none. -/
def isWordChar (unicode : Bool) : Option Char → Bool
  | none => false
  | some c =>
    if unicode then Unicode.wordChars.contains c else c.isAlphanum || c == '_'

/-- What a word test says, given whether there is a word character before and after the place. -/
def WordTest.holds (before after : Bool) : WordTest → Bool
  | boundary => before != after
  | notBoundary => before == after
  | start => !before && after
  | stop => before && !after
  | startHalf => !before
  | stopHalf => !after

/-- The test holds between two characters; `none` is the begin or the end of the text. -/
def Look.holds (before after : Option Char) : Look → Bool
  | startText => before.isNone
  | endText => after.isNone
  | startLine crlf =>
    before.isNone || before == some '\n'
      || (crlf && before == some '\r' && after != some '\n')
  | endLine crlf =>
    after.isNone || (crlf && after == some '\r')
      || (after == some '\n' && !(crlf && before == some '\r'))
  | word test unicode => test.holds (isWordChar unicode before) (isWordChar unicode after)

/-! ## Places -/

/-- The places of a text where a test of both sides holds, `before` being the character before the
first place. -/
def placesBetween (test : Option Char → Option Char → Bool) (before : Option Char) :
    List Char → Nat
  | [] => (test before none).toNat
  | c :: rest => 2 * placesBetween test (some c) rest + (test before (some c)).toNat

def placesBefore (test : Char → Bool) : List Char → Nat
  | [] => 0
  | c :: rest => 2 * placesBefore test rest + (test c).toNat

/-! ## Plans -/

/-- An expression over one text. -/
inductive Plan where
  | stay
  /-- Move past a character at one of these places. -/
  | consume (places : Nat)
  /-- Go on at these places only. -/
  | keep (places : Nat)
  /-- The body `min` times, and then up to `more` times. -/
  | loop (min more : Nat) (body : Plan)
  | sequence (parts : List Plan)
  | choice (branches : List Plan)
  deriving Inhabited

namespace Plan

/-- Apply a step a number of times; from no place it leads nowhere. -/
def times (step : Nat → Nat) : Nat → Nat → Nat
  | 0, set => set
  | n + 1, set => if set = 0 then 0 else times step n (step set)

/-- Apply a step up to a number of times and collect the places; it ends where none is added. -/
def grow (step : Nat → Nat) : Nat → Nat → Nat
  | 0, set => set
  | n + 1, set =>
    let next := set ||| step set
    if next = set then set else grow step n next

mutual

/-- The places that a plan leads to from a set of places. -/
def run : Plan → Nat → Nat
  | stay, set => set
  | consume places, set => (set &&& places) <<< 1
  | keep places, set => set &&& places
  | loop min more body, set => grow (run body) more (times (run body) min set)
  | sequence parts, set => runAll parts set
  | choice branches, set => runAny branches set

def runAll : List Plan → Nat → Nat
  | [], set => set
  | plan :: rest, set => runAll rest (plan.run set)

def runAny : List Plan → Nat → Nat
  | [], _ => 0
  | plan :: rest, set => plan.run set ||| runAny rest set

end

end Plan

namespace Expr

mutual

/-- The plan of an expression for a text. Without a bound a loop ends after as many rounds as there
are places, since each round but the last adds one. -/
def plan (text : List Char) : Expr → Plan
  | empty => .stay
  | literal chars => .sequence (chars.map fun c => .consume (placesBefore (· == c) text))
  | charClass _ set => .consume (placesBefore set.contains text)
  | look kind => .keep (placesBetween (fun b a => kind.holds b a) none text)
  | repetition min max _ body =>
    .loop min ((max.map fun n => n - min).getD (text.length + 1)) (body.plan text)
  | capture _ body => body.plan text
  | concat parts => .sequence (listPlan text parts)
  | alternation branches => .choice (listPlan text branches)

def listPlan (text : List Char) : List Expr → List Plan
  | [] => []
  | e :: rest => e.plan text :: listPlan text rest

end

def isMatch (e : Expr) (text : String) : Bool :=
  (e.plan text.toList).run (1 <<< (text.length + 1) - 1) != 0

end Expr

end Schemata.Regex
