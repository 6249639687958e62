import Schemata.Json.Pointer

/-!
# Paths of fields

* `Segment` : one step into a value, by name or by position;
* `FieldPath` : steps from the root of a value;
* `FieldPath.ofDot?`, `FieldPath.toDot` : the form `items.0.id`;
* `FieldPath.toPointer` : the same place as a JSON Pointer.
-/

namespace Schemata

/-- One step into a value. -/
inductive Segment where
  | name (name : String)
  | index (index : Nat)
  deriving DecidableEq, Repr

namespace Segment

/-- A decimal number below `2^64` without sign and leading zeros is a position, anything else a
name. -/
def ofText (text : String) : Segment :=
  match Pointer.index? text with
  | some i => index i
  | none => name text

def text : Segment → String
  | name text => text
  | index i => toString i

end Segment

/-- Steps from the root of a value; without steps it is the root itself. -/
abbrev FieldPath := List Segment

namespace FieldPath

/-- The path of a dotted text. An empty text is the root, and no step may be empty. -/
def ofDot? (text : String) : Option FieldPath :=
  if text.isEmpty then some []
  else
    let steps := Text.pieces '.' text.toList
    if steps.any List.isEmpty then none
    else some (steps.map fun step => Segment.ofText (String.ofList step))

def toDot (path : FieldPath) : String := ".".intercalate (path.map Segment.text)

def toPointer (path : FieldPath) : String := Pointer.append "" (path.map Segment.text)

/-- How reports call a field; the root has a name of its own. -/
def label (path : FieldPath) : String := if path.isEmpty then "(root)" else toDot path

end FieldPath

end Schemata
