import Schemata.Unicode.CharSet
import Schemata.Unicode.Category
import Schemata.Unicode.Script
import Schemata.Unicode.ScriptExtension
import Schemata.Unicode.Binary
import Schemata.Unicode.Age
import Schemata.Unicode.Segmentation
import Schemata.Unicode.CaseFolding
import Schemata.Unicode.Names

/-!
# Characters by property

* `digits`, `blanks`, `wordChars` : the sets behind `\d`, `\s` and `\w`;
* `Unicode.named` : the set that one name stands for: a binary property, a general category or a
  script, tried in this order;
* `Unicode.valued` : the set of a property with a value;
* `Unicode.foldCase` : a set with all characters that differ from a member in case only.
-/

namespace Schemata.Unicode

/-! ## Tables -/

/-- The set under a name of a table. -/
def setUnder? (table : List (String × List String)) (name : String) : Option CharSet :=
  (table.lookup name).map CharSet.decode

/-- The union of some general categories. -/
def categorySet (names : List String) : CharSet :=
  CharSet.ofRanges (names.flatMap fun name => ((setUnder? categories name).getD .empty).ranges)

def digits : CharSet := categorySet ["Nd"]

def blanks : CharSet := (setUnder? binaryProperties "White_Space").getD .empty

/-- Letters, marks, digits, connectors and joiners. -/
def wordChars : CharSet :=
  CharSet.ofRanges
    (((setUnder? binaryProperties "Alphabetic").getD .empty).ranges
      ++ (categorySet ["Mn", "Mc", "Me", "Nd", "Pc"]).ranges
      ++ ((setUnder? binaryProperties "Join_Control").getD .empty).ranges)

/-! ## Case folding -/

/-- The running sums of a list of distances. -/
def positions (start : Nat) : List Nat → List Nat
  | [] => []
  | d :: rest => (start + d) :: positions (start + d) rest

/-- The sets of a folding table, `start` being the first member of the set before them. -/
def foldingSets (start : Nat) : List String → List (List Nat)
  | [] => []
  | written :: rest =>
    let set := positions start (CharSet.numbers '.' written.toList)
    set :: foldingSets (set.headD start) rest

def foldings : List (List Nat) := foldingSets 0 (caseFoldings.flatMap fun line => line.splitOn " ")

/-- A set with all characters that differ from a member in case only. -/
def foldCase (s : CharSet) : CharSet :=
  CharSet.ofRanges
    (s.ranges ++ (foldings.filter fun set => set.any s.containsCode).flatMap fun set =>
      set.map fun code => (code, code))

/-- Some other character differs from this one in case only. -/
def hasCase (code : Nat) : Bool := foldings.any fun set => set.contains code

/-! ## Queries -/

/-- Why a query names no set. -/
inductive QueryError where
  | propertyNotFound
  | valueNotFound
  deriving DecidableEq, Repr

/-- A name in its loose form: lower case, only ASCII, without blanks, `_`, `-` and a leading
`is`; `isc` alone keeps the three letters. -/
def loose (name : String) : String :=
  let chars := name.toList
  let prefixed := (chars.take 2).map Char.toLower == ['i', 's']
  let kept := ((if prefixed then chars.drop 2 else chars).filter fun c =>
    c.toNat < 128 && c != ' ' && c != '_' && c != '-').map Char.toLower
  String.ofList (if prefixed && kept == ['c'] then ['i', 's', 'c'] else kept)

/-- The set of a general category, three special ones included. -/
def category? (name : String) : Option (Except QueryError CharSet) :=
  match name with
  | "any" => some (.ok .full)
  | "ascii" => some (.ok ⟨[(0, 127)]⟩)
  | "assigned" => some (.ok (categorySet ["Cn"]).compl)
  | _ => (categoryNames.lookup name).map fun basic =>
      if basic.isEmpty then .error .valueNotFound else .ok (categorySet basic)

/-- The set under the long name of a property value. -/
def valueSet (table : List (String × List String)) (name : String) : Except QueryError CharSet :=
  match setUnder? table name with
  | some set => .ok set
  | none => .error .valueNotFound

/-- The characters a version of the standard and all before it have. -/
def ageSet (version : String) : CharSet :=
  let upTo := ages.takeWhile fun entry => entry.1 != version
  CharSet.ofRanges
    ((upTo ++ ages.filter fun entry => entry.1 == version).flatMap fun entry =>
      (CharSet.decode entry.2).ranges)

/-- The set that one name stands for. The categories `cf`, `sc` and `lc` come before the
properties of these names. -/
def named (name : String) : Except QueryError CharSet :=
  let name := loose name
  let isProperty := !(["cf", "sc", "lc"].contains name)
  match if isProperty then binaryNames.lookup name else none with
  | some long => valueSet binaryProperties long
  | none =>
    match category? name with
    | some set => set
    | none =>
      match scriptNames.lookup name with
      | some long => valueSet scripts long
      | none => .error .propertyNotFound

/-- The set of a value from a list of names and a table. -/
def namedValue (names : List (String × String)) (table : List (String × List String))
    (value : String) :
    Except QueryError CharSet :=
  match names.lookup value with
  | some long => valueSet table long
  | none => .error .valueNotFound

/-- The set of the characters whose property has a value. -/
def valued (property value : String) : Except QueryError CharSet :=
  let property := loose property
  let value := loose value
  match property with
  | "gc" | "generalcategory" => (category? value).getD (.error .valueNotFound)
  | "sc" | "script" => namedValue scriptNames scripts value
  | "scx" | "scriptextensions" => namedValue scriptNames scriptExtensions value
  | "age" =>
    match ageNames.lookup value with
    | some version => .ok (ageSet version)
    | none => .error .valueNotFound
  | "gcb" | "graphemeclusterbreak" => namedValue graphemeClusterBreakNames graphemeClusterBreaks value
  | "wb" | "wordbreak" => namedValue wordBreakNames wordBreaks value
  | "sb" | "sentencebreak" => namedValue sentenceBreakNames sentenceBreaks value
  | _ =>
    if (binaryNames.lookup property).isSome || otherPropertyNames.contains property then
      .error .valueNotFound
    else .error .propertyNotFound

end Schemata.Unicode
