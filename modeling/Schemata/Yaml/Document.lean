import Schemata.Yaml.Event
import Schemata.Yaml.Scalar

/-!
# Values of YAML text

* `EventReader` : read values from the events of a document. Where an alias stands, the events of the node it
  means are read again (`EventReader.follow`), a bounded number of times;
* `memberName`, `members`, `items` : the parts of collections, given a reader of the nodes in them;
* `value` : all nodes, up to a depth;
* `Yaml.parse` : a text as the value of its only document.

Keys are texts as they are written, whatever a value written so would be. A repeated key keeps its place and
takes the last value.
-/

namespace Schemata.Yaml

/-- How far the events are read. -/
structure Reading where
  position : Nat := 0
  /-- How many aliases were followed. -/
  followed : Nat := 0

abbrev EventReader := ReaderT Document (StateT Reading (Except Error))

namespace EventReader

/-- The next event. A fault of the text counts when the events before it are used up; a text without events is
read as an empty node. -/
def peek : EventReader Event := do
  match (← read).events[(← get).position]?, (← read).fault with
  | some event, _ => return event
  | none, some e => throw e
  | none, none => return { kind := .scalar "" true, place := {} }

def skip : EventReader Unit := modify fun s => { s with position := s.position + 1 }

/-- Read entries, told how many there were before, until there is none. Each entry takes an event. -/
def entries {α : Type} (entry : Nat → EventReader (Option α)) : EventReader (List α) := do
  let rec go : (fuel index : Nat) → EventReader (List α)
    | 0, _ => return []
    | fuel + 1, index => do
      match ← entry index with
      | some a => return a :: (← go fuel (index + 1))
      | none => return []
  go ((← read).events.size + 1) 0

/-- Read at the node of a number, and go on behind its alias. -/
def follow {α : Type} (number : Nat) (atNode : EventReader α) : EventReader α := do
  let document ← read
  let { position, followed } ← get
  if document.events.size * 100 ≤ followed then throw .tooManyAliases
  set { position := (document.numbered.lookup number).getD position, followed := followed + 1 : Reading }
  let a ← atNode
  modify fun s => { s with position }
  return a

/-- Read a node, or the one that stands behind its alias. -/
def throughAlias {α : Type} (atNode : EventReader α) : EventReader α := do
  match (← peek).kind with
  | .aliasOf number =>
    skip
    follow number atNode
  | _ => atNode

end EventReader

open EventReader

/-! ## Collections -/

/-- A key. Of its collection it matters whether others precede it. -/
def nameText (path : ValuePath) (isFirst : Bool) : EventReader String := do
  let event ← peek
  skip
  match event.kind with
  | .scalar text _ => return text
  | kind => throw (.unusable (.keyNotText (kind == .sequenceStart) isFirst) path event.place)

/-- A key, and the step to its value. -/
def memberName (path : ValuePath) (isFirst : Bool) : EventReader (String × PathStep) := do
  let event ← peek
  let name ← throughAlias (nameText path isFirst)
  match event.kind with
  | .aliasOf _ => return (name, .aliased)
  | _ => return (name, .member name)

def members (child : ValuePath → EventReader Json) (path : ValuePath) : EventReader (List (String × Json)) :=
  entries fun index => do
    match (← peek).kind with
    | .mappingEnd =>
      skip
      return none
    | _ =>
      let (name, step) ← memberName path (index == 0)
      return some (name, ← child (step :: path))

def items (child : ValuePath → EventReader Json) (path : ValuePath) : EventReader (List Json) :=
  entries fun index => do
    match (← peek).kind with
    | .sequenceEnd =>
      skip
      return none
    | _ => return some (← child (.item index :: path))

/-! ## Nodes -/

/-- A node with collections nested at most `depth` deep. -/
def value : (depth : Nat) → ValuePath → EventReader Json
  | depth, path => throughAlias do
    let event ← peek
    skip
    if event.tag.any Tag.isOwn then throw (.unusable .ownTag path event.place)
    match event.kind, depth with
    | .sequenceStart, depth + 1 => Json.array <$> items (value depth) path
    | .mappingStart, depth + 1 => (Json.object ∘ Json.membersOf) <$> members (value depth) path
    | .scalar text isPlain, _ =>
      match Scalar.value event.tag isPlain text with
      | .ok value => return value
      | .error fault => throw (.unusable fault path event.place)
    | _, _ => throw (.tooDeep event.place)

/-! ## Documents -/

def maxDepth : Nat := 128

def nothingLeft (s : TokenStream) : Bool :=
  let rest := s.tokens.dropWhile fun token => token.kind == .documentEnd
  match rest with
  | [] => s.fault.isNone
  | token :: _ => token.kind == .streamEnd

/-- The value of the only document of a text. -/
def parse (text : String) : Except Error Json := do
  let (document, rest) := Document.read (TokenStream.ofText text)
  let (result, _) ← ((value maxDepth []).run document).run {}
  match document.fault with
  | some e => throw e
  | none => if nothingLeft rest then return result else throw .severalDocuments

end Schemata.Yaml
