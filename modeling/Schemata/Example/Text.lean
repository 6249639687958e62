import Schemata.Schema.Node

/-!
# Example texts

* `Regex.Expr.emit` : a text that follows an expression, grown by further rounds of its repetitions;
* `Pattern.synthesize?` : such a text, if pattern and length bounds accept it;
* `fitLength` : a text cut or filled up to length bounds;
* `fitOverflows` : that text would be longer than any text can be;
* `Rules.exampleString`, `Rules.exampleOverflows` : the example of a schema for texts, and whether it cannot be made.
-/

namespace Schemata

/-! ## Lengths -/

def fitsLength (min max : Option Nat) (chars : List Char) : Bool :=
  min.all (· ≤ chars.length) && max.all (chars.length ≤ ·)

def cutLength (max : Option Nat) (chars : List Char) : List Char :=
  match max with
  | some max => chars.take max
  | none => chars

/-- The text cut to the greatest length, then filled with `x` up to the least one. -/
def fitLength (min max : Option Nat) (chars : List Char) : List Char :=
  let cut := cutLength max chars
  cut ++ List.replicate ((min.getD 0) - cut.length) 'x'

/-- The most bytes that a text has room for. Memory may run out long before; that is left aside here. -/
def textCapacity : Nat := 0x7fffffffffffffff

/-- The fitted text has more bytes than there is room for. It need not be made to tell. -/
def fitOverflows (min max : Option Nat) (chars : List Char) : Bool :=
  let cut := cutLength max chars
  textCapacity < (String.ofList cut).utf8ByteSize + ((min.getD 0) - cut.length)

/-! ## Texts of an expression -/

namespace Regex

/-- The characters that are taken first from a class. -/
def preferredChars : List Char := ['a', 'A', '0', '_', '-', ' ']

/-- The most rounds of a repetition. -/
def roundLimit : Nat := 256

/-- A character of a class: a preferred one, or else the least. For a class of bytes it is the begin
of the first range that begins with an ASCII one. -/
def pickChar? (bytes : Bool) (set : CharSet) : Option Char :=
  match preferredChars.find? set.contains with
  | some c => some c
  | none =>
    let first := if bytes then set.ranges.find? fun r => r.1 < 128 else set.ranges.head?
    first.map fun r => Char.ofNat r.1

/-- A text, and the number of characters still to be added. -/
structure Growing where
  text : List Char
  growth : Nat

namespace Growing

/-- A number of texts in a row. -/
def rounds (next : Nat → Option Growing) : Nat → Growing → Option Growing
  | 0, g => some g
  | n + 1, g => do
    let more ← next g.growth
    rounds next n ⟨g.text ++ more.text, more.growth⟩

/-- Further rounds while characters are to be added and each round adds some. -/
def grow (next : Nat → Option Growing) : Nat → Growing → Option Growing
  | 0, g => some g
  | n + 1, g =>
    if g.growth = 0 then some g
    else do
      let more ← next g.growth
      let grown : Growing := ⟨g.text ++ more.text, more.growth - more.text.length⟩
      if more.text.isEmpty then some grown else grow next n grown

end Growing

namespace Expr

mutual

/-- A text that follows an expression: first branches, least counts, and as many further rounds as
`growth` asks for. -/
def emit (growth : Nat) : Expr → Option Growing
  | .empty | .look _ => some ⟨[], growth⟩
  | .literal chars => some ⟨chars, growth⟩
  | .charClass bytes set => (pickChar? bytes set).map fun c => ⟨[c], growth⟩
  | .repetition min max _ body =>
    if roundLimit < min then none
    else do
      let least ← Growing.rounds (fun growth => emit growth body) min ⟨[], growth⟩
      let most := (max.map fun max => Nat.min max roundLimit).getD roundLimit
      Growing.grow (fun growth => emit growth body) (most - min) least
  | .capture _ body => emit growth body
  | .concat parts => emitAll growth parts
  | .alternation branches => emitFirst growth branches

def emitAll (growth : Nat) : List Expr → Option Growing
  | [] => some ⟨[], growth⟩
  | e :: rest => do
    let first ← emit growth e
    let others ← emitAll first.growth rest
    some ⟨first.text ++ others.text, others.growth⟩

def emitFirst (growth : Nat) : List Expr → Option Growing
  | [] => none
  | e :: _ => emit growth e

end

end Expr

end Regex

/-! ## Texts of a schema -/

namespace Pattern

def accepts (pattern : Pattern) (min max : Option Nat) (chars : List Char) : Bool :=
  pattern.isMatch (String.ofList chars) && fitsLength min max chars

/-- A text made from the pattern: the shortest one, grown to the least length. -/
def made? (pattern : Pattern) (min : Option Nat) : Option (List Char) := do
  let shortest ← pattern.expr.emit 0
  let missing := (min.getD 0) - shortest.text.length
  if missing = 0 then some shortest.text else (pattern.expr.emit missing).map (·.text)

/-- A text made from the pattern, as it is or else fitted to the bounds, if then everything accepts it. -/
def synthesize? (pattern : Pattern) (min max : Option Nat) : Option (List Char) := do
  let made ← pattern.made? min
  if pattern.accepts min max made then some made
  else
    let fitted := fitLength min max made
    if pattern.accepts min max fitted then some fitted else none

/-- The text made from the pattern has to be fitted to the bounds, and has no room. -/
def overflows (pattern : Pattern) (min max : Option Nat) : Bool :=
  (pattern.made? min).any fun made => !pattern.accepts min max made && fitOverflows min max made

end Pattern

namespace Rules

def acceptsText (rules : Rules) (text : String) : Bool :=
  fitsLength rules.minLength rules.maxLength text.toList && rules.pattern.all (·.isMatch text)

def usualText? (rules : Rules) : Option String := do
  let pattern ← rules.pattern
  ((Format.ofPattern? pattern.source).bind Format.example?).filter rules.acceptsText

/-- The text for a pattern: the usual one of the format it spells out, or one made from it. -/
def patternText? (rules : Rules) : Option String := do
  let pattern ← rules.pattern
  rules.usualText?.or ((pattern.synthesize? rules.minLength rules.maxLength).map String.ofList)

def formatText? (rules : Rules) : Option String := do
  (← rules.format).examples.find? rules.acceptsText

/-- The example of a schema for texts: after its pattern, its format, or just a word of the right
length. -/
def exampleString (rules : Rules) : String :=
  (rules.patternText?.or rules.formatText?).getD
    (String.ofList (fitLength rules.minLength rules.maxLength "string".toList))

/-- A text that is fitted on the way to the example has no room: one made from the pattern, or the word. -/
def exampleOverflows (rules : Rules) : Bool :=
  rules.usualText?.isNone && rules.pattern.any (·.overflows rules.minLength rules.maxLength) ||
    (rules.patternText?.or rules.formatText?).isNone &&
      fitOverflows rules.minLength rules.maxLength "string".toList

end Rules

end Schemata
