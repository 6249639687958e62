import Schemata.Json.Reader
import Schemata.Text.Split
import Schemata.Yaml.Cursor

/-!
# Tags of nodes

* `Tag` : the bytes of a tag; `Tag.isOwn` : it is told apart from those that all documents share;
* `uri` : the bytes of a tag as it is written, some of them after `%`;
* `WrittenTag` : a tag before its handle is looked up; `WrittenTag.read`;
* `anchorName` : the name that an anchor gives to a node, or an alias asks for;
* `Directive` : what a line before a document says; `Directive.read`.
-/

namespace Schemata.Yaml

abbrev Tag := List UInt8

namespace Tag

def ofText (text : String) : Tag := text.toUTF8.toList

/-- The tag that leaves it to the node what it is. -/
def unspecific : Tag := ofText "!"

/-- Tags of this kind begin so. -/
def isOwn (tag : Tag) : Bool :=
  tag.head? == some 33 && (String.fromUTF8? ⟨tag.tail.toArray⟩).isSome

end Tag

/-! ## Bytes -/

/-- How many bytes of a character follow one that begins it. -/
def trailingOctets? (byte : UInt8) : Option Nat :=
  if byte &&& 0x80 = 0 then some 0
  else if byte &&& 0xE0 = 0xC0 then some 1
  else if byte &&& 0xF0 = 0xE0 then some 2
  else if byte &&& 0xF8 = 0xF0 then some 3
  else none

def isTrailingOctet (byte : UInt8) : Bool := byte &&& 0xC0 = 0x80

def octet? (high low : Char) : Option UInt8 := do
  return (16 * (← Json.Reader.hexValue? high) + (← Json.Reader.hexValue? low)).toUInt8

/-- The character stands for itself in a tag; some do only in one that is written in full. -/
def isUriChar (full : Bool) (c : Char) : Bool :=
  isNameChar c || ";/?:@&=+$.!~*'()".contains c || (full && ",[]".contains c)

/-- The bytes of a tag. So many are still wanted of a character that has begun. -/
def uri (setting : Setting) (start : Position) (full : Bool) : (wanted : Nat) → List Char → Position →
    Except Error (List UInt8 × Cursor)
  | wanted, '%' :: high :: low :: rest, p => do
    let p' := { p with index := p.index + 3, column := p.column + 3 }
    match octet? high low, wanted with
    | none, _ => .error (.malformed .octetMissing p (some (setting, start)))
    | some byte, 0 =>
      match trailingOctets? byte with
      | none => .error (.malformed .wrongLeadingOctet p (some (setting, start)))
      | some wanted =>
        let (bytes, cursor) ← uri setting start full wanted rest p'
        return (byte :: bytes, cursor)
    | some byte, wanted + 1 =>
      if isTrailingOctet byte then
        let (bytes, cursor) ← uri setting start full wanted rest p'
        return (byte :: bytes, cursor)
      else .error (.malformed .wrongTrailingOctet p (some (setting, start)))
  | 0, c :: rest, p =>
    if c = '%' then .error (.malformed .octetMissing p (some (setting, start)))
    else if isUriChar full c then do
      let (bytes, cursor) ← uri setting start full 0 rest p.next
      return (c.toUInt8 :: bytes, cursor)
    else .ok ([], ⟨c :: rest, p⟩)
  | 0, [], p => .ok ([], ⟨[], p⟩)
  | _ + 1, _, p => .error (.malformed .octetMissing p (some (setting, start)))

/-- The bytes of a tag; there is at least one. -/
def uriOfSome (setting : Setting) (start : Position) (full : Bool) (cursor : Cursor) :
    Except Error (List UInt8 × Cursor) := do
  let (bytes, after) ← uri setting start full 0 cursor.rest cursor.place
  if bytes.isEmpty then after.fault .tagUriMissing setting start else return (bytes, after)

/-! ## Tags -/

/-- A tag as it is written. Its handle stands for the begin of the tag, unless it is empty. -/
structure WrittenTag where
  handle : String
  suffix : Tag
  deriving DecidableEq, Repr

/-- A tag that begins at the cursor, with what may follow it there. -/
def WrittenTag.read (inFlow : Bool) (cursor : Cursor) : Except Error (WrittenTag × Cursor) := do
  let start := cursor.place
  let (tag, cursor) ← match (cursor.skip 1).rest with
    | '<' :: _ => do
      let (suffix, cursor) ← uriOfSome .tagUri start true (cursor.skip 2)
      if cursor.rest.head? = some '>' then pure (⟨"", suffix⟩, cursor.skip 1)
      else cursor.fault .tagEndMissing .tag start
    | _ => do
      let (name, after) := (cursor.skip 1).takeWhile isNameChar
      if after.rest.head? = some '!' then
        let (suffix, cursor) ← uriOfSome .tagUri start false (after.skip 1)
        pure (⟨String.ofList ('!' :: name ++ ['!']), suffix⟩, cursor)
      else
        let (bytes, cursor) ← uri .tagUri start false 0 after.rest after.place
        let suffix := Tag.ofText (String.ofList name) ++ bytes
        pure (if suffix.isEmpty then ⟨"", Tag.unspecific⟩ else ⟨"!", suffix⟩, cursor)
  if wordEnds cursor.rest || (inFlow && cursor.rest.head? == some ',') then return (tag, cursor)
  else cursor.fault .blankOrBreakMissing .tag start

/-! ## Anchors -/

/-- The name behind the character at the cursor. -/
def anchorName (setting : Setting) (cursor : Cursor) : Except Error (String × Cursor) :=
  let (name, after) := (cursor.skip 1).takeWhile isNameChar
  if !name.isEmpty && (wordEnds after.rest || after.rest.head?.any ("?:,]\x7d%@\x60".contains ·)) then
    .ok (String.ofList name, after)
  else after.fault .anchorNameMissing setting cursor.place

/-! ## Directives -/

inductive Directive where
  | version (major minor : Nat)
  /-- A handle and what it stands for. -/
  | handle (name : String) (tag : Tag)
  deriving DecidableEq, Repr

namespace Directive

/-- One of the two numbers of a version, of at most nine digits. -/
def versionNumber (start : Position) (cursor : Cursor) : Except Error (Nat × Cursor) :=
  let (digits, after) := cursor.takeWhile Char.isDigit
  if 9 < digits.length then (cursor.skip 9).fault .versionTooLong .versionDirective start
  else if digits.isEmpty then cursor.fault .versionMissing .versionDirective start
  else .ok (Text.digitsValue digits, after)

def readVersion (start : Position) (cursor : Cursor) : Except Error (Directive × Cursor) := do
  let (_, cursor) := cursor.takeWhile isSpace
  let (major, cursor) ← versionNumber start cursor
  if cursor.rest.head? ≠ some '.' then cursor.fault .versionPointMissing .versionDirective start
  else
    let (minor, cursor) ← versionNumber start (cursor.skip 1)
    return (.version major minor, cursor)

/-- A handle: a name between two exclamation marks, or one mark alone. -/
def readHandle (start : Position) (cursor : Cursor) : Except Error (String × Cursor) := do
  if cursor.rest.head? ≠ some '!' then cursor.fault .tagMarkMissing .tagDirectiveMark start
  else
    let (name, after) := (cursor.skip 1).takeWhile isNameChar
    if after.rest.head? = some '!' then return (String.ofList ('!' :: name ++ ['!']), after.skip 1)
    else if name.isEmpty then return ("!", after)
    else after.fault .tagMarkMissing .tagDirectiveHandle start

def readTag (start : Position) (cursor : Cursor) : Except Error (Directive × Cursor) := do
  let (_, cursor) := cursor.takeWhile isSpace
  let (name, cursor) ← readHandle start cursor
  if !cursor.rest.head?.any isSpace then cursor.fault .blankMissing .tagDirective start
  else
    let (_, cursor) := cursor.takeWhile isSpace
    let (tag, cursor) ← uriOfSome .tagDirectiveUri start true cursor
    if wordEnds cursor.rest then return (.handle name tag, cursor)
    else cursor.fault .blankOrBreakMissing .tagDirective start

/-- A directive that begins at the cursor, and its line. -/
def read (cursor : Cursor) : Except Error (Directive × Cursor) := do
  let start := cursor.place
  let (name, cursor) := (cursor.skip 1).takeWhile isNameChar
  if name.isEmpty then cursor.fault .directiveNameMissing .directive start
  else if !wordEnds cursor.rest then cursor.fault .wrongDirectiveName .directive start
  else
    let (directive, cursor) ← match String.ofList name with
      | "YAML" => readVersion start cursor
      | "TAG" => readTag start cursor
      | _ => cursor.fault .unknownDirective .directive start
    return (directive, ← cursor.leaveLine .directive start)

end Directive

end Schemata.Yaml
