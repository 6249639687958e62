import Schemata.Net.Punycode
import Schemata.Text.Split
import Schemata.Unicode.Composition
import Schemata.Unicode.Direction
import Schemata.Unicode.HostName
import Schemata.Unicode.Property

/-!
# Host names

* `HostName.fold?` : the characters of a name in their one form, if none is refused;
* `Label.read?` : a label, decoded if it is written in ASCII only;
* `Label.isValid`, `Label.keepsDirection` : the rules for a label beyond ASCII;
* `HostName.ofText?` : the labels of a valid name.
-/

namespace Schemata.Net

open Schemata.Text (pieces)

/-! ## Characters -/

/-- The sets behind the tables, decoded once. -/
def refusedChars : CharSet := .decode Unicode.hostRefused

def ignoredChars : CharSet := .decode Unicode.hostIgnored

/-- Runs of characters that stand for others: first, last, and what the first stands for. -/
def mappedRunsFrom (start : Nat) : List (List Nat) → List (Nat × Nat × List Nat)
  | (gap :: extent :: text) :: rest =>
    (start + gap, start + gap + extent, text) :: mappedRunsFrom (start + gap + extent + 1) rest
  | _ => []

def mappedRuns : List (Nat × Nat × List Nat) := mappedRunsFrom 0 (Unicode.entries Unicode.hostMapped)

/-- The text that a character stands for, if that is another one. -/
def textOf? (code : Nat) : Option (List Nat) :=
  (mappedRuns.find? fun run => run.1 ≤ code && code ≤ run.2.1).map fun run =>
    match run.2.2 with
    | [first] => [first + (code - run.1)]
    | text => text

/-- A character that stands for itself in a decoded label. -/
def isPlain (code : Nat) : Bool :=
  code < 128
    || !(refusedChars.containsCode code || ignoredChars.containsCode code || (textOf? code).isSome)

/-- The ASCII characters that may not stand in a host name. -/
def isForbidden (c : Char) : Bool :=
  c.toNat ≤ 0x20 || c.toNat = 0x7F || "%#/:<>?@[\\]^|".contains c

namespace HostName

/-- The code points of a name: small letters for large ones, for each other character what it stands for,
and nothing for what is ignored. -/
def mapped? : List Char → Option (List Nat)
  | [] => some []
  | c :: rest => do
    let mapped ← mapped? rest
    if c.toNat < 128 then some (c.toLower.toNat :: mapped)
    else if refusedChars.contains c then none
    else if ignoredChars.contains c then some mapped
    else some ((textOf? c.toNat).getD [c.toNat] ++ mapped)

/-- The characters of a name in their one form. -/
def fold? (text : List Char) : Option (List Char) :=
  (mapped? text).map fun codes => (Unicode.composed codes).map Char.ofNat

end HostName

/-! ## Labels -/

namespace Label

def isAscii (label : List Nat) : Bool := label.all (· < 128)

/-- The code points of a label. Behind `xn--` it is decoded, and must then hold a character beyond
ASCII and only such as stand for themselves, in composed form. -/
def read? (label : List Char) : Option (List Nat) :=
  match label with
  | 'x' :: 'n' :: '-' :: '-' :: rest => do
    if !rest.all (fun c => c.toNat < 128) then none
    else
      let codes ← Punycode.decode? rest
      if isAscii codes || !codes.all isPlain || Unicode.composed codes ≠ codes then none else some codes
  | _ => some (label.map Char.toNat)

def marks : CharSet := Unicode.categorySet ["Mn", "Mc", "Me"]

def viramas : CharSet := (Unicode.setUnder? Unicode.binaryProperties "Grapheme_Link").getD .empty

def joining (type : String) : CharSet :=
  (Unicode.setUnder? Unicode.joiningTypes type).getD .empty

def transparent : CharSet := joining "T"

def joinsLeft : CharSet := (joining "L").union (joining "D")

def joinsRight : CharSet := (joining "R").union (joining "D")

/-- The first code point that does not let joining through has a property. -/
def firstSolid (set : CharSet) (codes : List Nat) : Bool :=
  ((codes.dropWhile transparent.containsCode).head?.map set.containsCode).getD false

/-- Joiners stand behind a virama; the one that separates may also stand between letters that would
join. `before` holds the code points before the rest, the last one first. -/
def joinersFit (before : List Nat) : List Nat → Bool
  | [] => true
  | code :: rest =>
    (if code = 0x200C ∨ code = 0x200D then
      (before.head?.map viramas.containsCode).getD false
        || (code = 0x200C && firstSolid joinsLeft before && firstSolid joinsRight rest)
      else true) && joinersFit (code :: before) rest

/-- A label begins with no mark, and its joiners fit. -/
def isValid (label : List Nat) : Bool :=
  isAscii label
    || (!((label.head?.map marks.containsCode).getD false) && joinersFit [] label)

/-! ## Direction -/

def directions : List (String × CharSet) :=
  Unicode.bidiClasses.map fun entry => (entry.1, CharSet.decode entry.2)

/-- The short name of the directional class of a code point. -/
def direction (code : Nat) : String :=
  ((directions.find? fun entry => entry.2.containsCode code).map Prod.fst).getD "L"

def runsLeft (label : List Nat) : Bool :=
  label.any fun code => 0x590 ≤ code && ["R", "AL", "AN"].contains (direction code)

/-- The label keeps one direction from a letter at its begin to a letter or number at its end. -/
def keepsDirection (label : List Nat) : Bool :=
  let classes := label.map direction
  let ending := ((classes.reverse.dropWhile (· == "NSM")).head?).getD ""
  match classes.head? with
  | none => true
  | some "L" =>
    classes.all (fun k => ["L", "EN", "ES", "CS", "ET", "ON", "BN", "NSM"].contains k)
      && ["L", "EN"].contains ending
  | some first =>
    ["R", "AL"].contains first && classes.all (· != "L")
      && ["R", "AL", "EN", "AN"].contains ending
      && !(classes.contains "EN" && classes.contains "AN")

end Label

/-! ## Names -/

namespace HostName

/-- The labels of a valid host name, as code points. -/
def ofText? (text : List Char) : Option (List (List Nat)) := do
  let chars ← fold? text
  if chars.any isForbidden then none
  else
    let labels ← (pieces '.' chars).mapM Label.read?
    if labels.all Label.isValid
        && (!labels.any Label.runsLeft || labels.all Label.keepsDirection) then some labels
    else none

end HostName

end Schemata.Net
