import Schemata.Json.Basic
import Schemata.Json.Reader
import Schemata.Text.Split
import Schemata.Yaml.Tag

/-!
# Values of scalars

* `Scalar.integer?` : the integer that a scalar writes, in decimal or after `0x`, `0o`, `0b`;
* `Scalar.double?` : the number that it writes with a fraction or an exponent;
* `Scalar.ofPlain` : null, a truth value, a number, or else the text itself;
* `Scalar.ofTag` : the value that the tag asks for;
* `Scalar.value` : the value of a scalar; without tag a quoted one is a text.

A number of several digits that begins with a zero is text, and a word is a truth value only as `true` or
`false`, in small letters, capitals or with one capital.
-/

namespace Schemata.Yaml.Scalar

/-- The number that digits of a base write; there is at least one. -/
def digits? (base : Nat) (written : List Char) : Option Nat :=
  if written.isEmpty then none
  else written.foldlM (fun n c =>
    (Json.Reader.hexValue? c).bind fun d => if d < base then some (base * n + d) else none) 0

/-- Decimal digits that begin with a zero and go on. A sign does not count. -/
def isZeroPadded (written : List Char) : Bool :=
  match written with
  | '-' :: '0' :: d :: rest | '+' :: '0' :: d :: rest | '0' :: d :: rest => (d :: rest).all Char.isDigit
  | _ => false

def natural? (written : List Char) : Option Nat :=
  match written with
  | '0' :: 'x' :: rest => digits? 16 rest
  | '0' :: 'o' :: rest => digits? 8 rest
  | '0' :: 'b' :: rest => digits? 2 rest
  | _ => digits? 10 written

def integer? (written : List Char) : Option Int :=
  if isZeroPadded written then none
  else
    match written with
    | '-' :: rest => (natural? rest).map fun n => -(n : Int)
    | '+' :: rest => (natural? rest).map Int.ofNat
    | _ => (natural? written).map Int.ofNat

/-- The exponent that follows the digits of a number. -/
def exponent? (written : List Char) : Option Int :=
  match written with
  | [] => some 0
  | e :: rest =>
    if e != 'e' && e != 'E' then none
    else
      match rest with
      | '-' :: power => (digits? 10 power).map fun n => -(n : Int)
      | '+' :: power => (digits? 10 power).map Int.ofNat
      | power => (digits? 10 power).map Int.ofNat

/-- The number that a scalar writes in decimal after its sign, `none` beyond the finite range. There is a
digit before the point or after it. -/
def unsignedDouble? (neg : Bool) (written : List Char) : Option Double :=
  let whole := written.takeWhile Char.isDigit
  let rest := written.dropWhile Char.isDigit
  let (fraction, rest) := match rest with
    | '.' :: rest => (rest.takeWhile Char.isDigit, rest.dropWhile Char.isDigit)
    | _ => ([], rest)
  if whole.isEmpty && fraction.isEmpty then none
  else
    (exponent? rest).bind fun exponent =>
      Double.ofDecimal? neg (Text.digitsValue (whole ++ fraction)) (exponent - fraction.length)

def double? (written : List Char) : Option Double :=
  match written with
  | '-' :: rest => unsignedDouble? true rest
  | '+' :: rest => unsignedDouble? false rest
  | _ => unsignedDouble? false written

/-- The numbers that JSON does not have. -/
def isNotFinite (written : String) : Bool :=
  [".inf", ".Inf", ".INF", "+.inf", "+.Inf", "+.INF", "-.inf", "-.Inf", "-.INF",
    ".nan", ".NaN", ".NAN"].contains written

/-- An integer as a value. Up to 128 bits it is read as an integer, and refused when JSON has no such
number; `none` beyond. -/
def ofInteger? (n : Int) : Option (Except ValueFault Json) :=
  match Number.ofInt? n with
  | some number => some (.ok (.number number))
  | none => if -(1 <<< 127 : Nat) ≤ n ∧ n < (1 <<< 128 : Nat) then some (.error .numberOutOfRange) else none

def isNull (written : String) : Bool := ["~", "null", "Null", "NULL"].contains written

def truth? (written : String) : Option Bool :=
  if ["true", "True", "TRUE"].contains written then some true
  else if ["false", "False", "FALSE"].contains written then some false
  else none

def integerValue? (written : String) : Option (Except ValueFault Json) :=
  (integer? written.toList).bind ofInteger?

def doubleValue? (written : String) : Option Json :=
  if isNotFinite written then some .null
  else (double? written.toList).map fun x => .number (.double x)

def ofPlain (written : String) : Except ValueFault Json :=
  if written = "" || isNull written then .ok .null
  else
    match truth? written, integerValue? written with
    | some b, _ => .ok (.bool b)
    | none, some result => result
    | none, none =>
      if isZeroPadded written.toList then .ok (.string written)
      else .ok ((doubleValue? written).getD (.string written))

/-- The tags that ask for a value of a kind, as they stand in full. -/
def sharedTag (name : String) : Tag := Tag.ofText ("tag:yaml.org,2002:" ++ name)

def ofTag (tag : Tag) (isPlain : Bool) (written : String) : Except ValueFault Json :=
  if tag = sharedTag "bool" then
    (truth? written).elim (.error (.notOfTag written "a boolean")) fun b => .ok (.bool b)
  else if tag = sharedTag "int" then (integerValue? written).getD (.error (.notOfTag written "an integer"))
  else if tag = sharedTag "float" then
    (doubleValue? written).elim (.error (.notOfTag written "a float")) .ok
  else if tag = sharedTag "null" then
    if isNull written then .ok .null else .error (.notOfTag written "null")
  else if isPlain && tag.head? == Tag.unspecific.head? then ofPlain written
  else .ok (.string written)

def value (tag : Option Tag) (isPlain : Bool) (written : String) : Except ValueFault Json :=
  match tag with
  | some tag => ofTag tag isPlain written
  | none => if isPlain then ofPlain written else .ok (.string written)

end Schemata.Yaml.Scalar
