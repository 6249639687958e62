import Schemata.Yaml.Token

/-!
# Events of YAML text

* `Event` : a scalar, an alias, or the begin or end of a collection, in the order of the text;
* `EventWriter` : write events for the tokens that are next; what is written before a fault stays;
* `nodeProperties` : the name and the tag of a node, its handle looked up;
* `blockSequence`, `indentlessSequence`, `blockMapping`, `flowSequence`, `flowMapping` : the collections,
  given a writer of the nodes in them;
* `Document.read` : the events of the document that is next.

The nodes that have names are numbered, and an alias means the node that got its number last. The number is that
of the names known before; so a name that is given twice can share its number with the next new one.
-/

namespace Schemata.Yaml

inductive EventKind where
  /-- The node of a number, again. -/
  | aliasOf (number : Nat)
  | scalar (text : String) (isPlain : Bool)
  | sequenceStart | sequenceEnd | mappingStart | mappingEnd
  deriving DecidableEq, Repr

structure Event where
  kind : EventKind
  tag : Option Tag := none
  place : Position

structure Document where
  events : Array Event := #[]
  /-- Where the node of each number begins, the last one first. -/
  numbered : List (Nat × Nat) := []
  /-- What is wrong behind the events. -/
  fault : Option Error := none

/-- How far the tokens are read. -/
structure Progress where
  stream : TokenStream
  document : Document := {}
  /-- The numbers of the names. -/
  names : List (String × Nat) := []
  /-- What the handles of tags stand for. -/
  handles : List (String × Tag) := []
  /-- A directive has told the version. -/
  versioned : Bool := false

/-- The state stays when a fault is found. -/
abbrev EventWriter := ExceptT Error (StateM Progress)

namespace EventWriter

/-- The next token. A fault of the text counts when the tokens before it are used up. -/
def peek : EventWriter Token := do
  match (← get).stream.tokens, (← get).stream.fault with
  | token :: _, _ => return token
  | [], some e => throw e
  | [], none => return ⟨.streamEnd, {}⟩

def skip : EventWriter Unit :=
  modify fun s => { s with stream := { s.stream with tokens := s.stream.tokens.tail } }

/-- Skip a token and look at the next one. -/
def skipPeek : EventWriter Token := do
  skip
  peek

/-- Write entries, told how many there were before, until there is none. Each entry takes a token. -/
def entries (entry : Nat → EventWriter Bool) : EventWriter Unit := do
  let rec go : (fuel index : Nat) → EventWriter Unit
    | 0, _ => return
    | fuel + 1, index => do if ← entry index then go fuel (index + 1)
  go ((← get).stream.tokens.length + 1) 0

/-- A fault of the form at a token. -/
def malformed {α : Type} (fault : Fault) (setting : Setting) (start : Position) (token : Token) :
    EventWriter α :=
  throw (.malformed fault token.place (some (setting, start)))

def write (event : Event) : EventWriter Unit :=
  modify fun s => { s with document := { s.document with events := s.document.events.push event } }

/-- Give a name to the node whose first event is next. -/
def nameNext (name : String) : EventWriter Unit :=
  modify fun s =>
    let number := s.names.length
    { s with
      names := (name, number) :: s.names.filter (·.1 != name)
      document := { s.document with numbered := (number, s.document.events.size) :: s.document.numbered } }

end EventWriter

open EventWriter

/-! ## Nodes -/

/-- Where a node stands. As part of a block mapping, a sequence need not be indented. -/
inductive NodePlace where
  | block | blockMember | flow
  deriving DecidableEq

/-- Writes the events of the node that is next. -/
abbrev NodeWriter := NodePlace → EventWriter Unit

/-- There is no node where one has to be. -/
def nodeMissing (place : NodePlace) (token : Token) : EventWriter Unit :=
  malformed .nodeMissing (if place = .flow then .flowNode else .blockNode) token.place token

/-- A node that is not written at all. -/
def emptyNode : EventWriter Unit := do write { kind := .scalar "" true, place := (← peek).place }

/-- A node, or an empty one where one of these tokens stands. -/
def nodeUnless (stops : List TokenKind) (child : EventWriter Unit) : EventWriter Unit := do
  if stops.contains (← peek).kind then emptyNode else child

/-- What may stand before a node. -/
structure NodeProperties where
  anchor : Option String
  tag : Option Tag
  place : Position

def anchor? : EventWriter (Option String) := do
  match (← peek).kind with
  | .anchor name => skip; return some name
  | _ => return none

def writtenTag? : EventWriter (Option (WrittenTag × Position)) := do
  let token ← peek
  match token.kind with
  | .tag tag => skip; return some (tag, token.place)
  | _ => return none

/-- The name and the tag of a node, in any order. -/
def nodeProperties : EventWriter NodeProperties := do
  let place := (← peek).place
  let first ← anchor?
  let written ← writtenTag?
  let anchor ← if first.isNone && written.isSome then anchor? else pure first
  let _ ← peek
  let tag ← written.mapM fun (tag, tagPlace) => do
    if tag.handle = "" then return tag.suffix
    else
      match (← get).handles.lookup tag.handle with
      | some stem => return stem ++ tag.suffix
      | none => throw (.malformed .unknownHandle tagPlace (some (.node, place)))
  return { anchor, tag, place }

/-- The first event of a node. -/
def NodeProperties.write (properties : NodeProperties) (kind : EventKind) : EventWriter Unit := do
  properties.anchor.forM nameNext
  EventWriter.write { kind, tag := properties.tag, place := properties.place }

/-! ## Collections -/

/-- The end of a collection is written where its last token stands. -/
def close (kind : EventKind) : EventWriter Unit := do EventWriter.write { kind, place := (← peek).place }

def blockSequence (child : NodeWriter) (start : Position) : EventWriter Unit := do
  entries fun _ => do
    let token ← peek
    match token.kind with
    | .blockEntry =>
      skip
      nodeUnless [.blockEntry, .blockEnd] (child .block)
      return true
    | .blockEnd => return false
    | _ => malformed .dashMissing .blockCollection start token
  close .sequenceEnd
  skip

/-- The entries of a block sequence at the indentation of the mapping around it. -/
def indentlessSequence (child : NodeWriter) : EventWriter Unit := do
  entries fun _ => do
    match (← peek).kind with
    | .blockEntry =>
      skip
      nodeUnless [.blockEntry, .key, .value, .blockEnd] (child .block)
      return true
    | _ => return false
  close .sequenceEnd

/-- The value that may follow a key. -/
def memberValue (stops : List TokenKind) (child : EventWriter Unit) : EventWriter Unit := do
  match (← peek).kind with
  | .value =>
    skip
    nodeUnless stops child
  | _ => emptyNode

def blockMapping (child : NodeWriter) (start : Position) : EventWriter Unit := do
  let stops := [.key, .value, .blockEnd]
  entries fun _ => do
    let token ← peek
    match token.kind with
    | .key =>
      skip
      nodeUnless stops (child .blockMember)
      memberValue stops (child .blockMember)
      return true
    | .blockEnd => return false
    | _ => malformed .keyMissing .blockMapping start token
  close .mappingEnd
  skip

/-- The entries of a flow collection after its beginning, with commas between them. -/
def flowEntries (last : TokenKind) (missing : Fault) (setting : Setting) (start : Position)
    (entry : EventWriter Unit) : EventWriter Unit :=
  entries fun index => do
    let token ← peek
    if token.kind = last then return false
    else
      if index ≠ 0 then
        if token.kind = .flowEntry then skip else malformed missing setting start token
      if (← peek).kind = last then return false
      else
        entry
        return true

def flowMapping (child : NodeWriter) (start : Position) : EventWriter Unit := do
  let stops := [.flowEntry, .flowMappingEnd]
  flowEntries .flowMappingEnd .commaOrBraceMissing .flowMapping start do
    match (← peek).kind with
    | .key =>
      skip
      nodeUnless (.value :: stops) (child .flow)
      memberValue stops (child .flow)
    | _ =>
      child .flow
      emptyNode
  close .mappingEnd
  skip

/-- A mapping of one member, written without braces in a flow sequence. What stands in the place of its
key is skipped. -/
def flowPair (child : NodeWriter) : EventWriter Unit := do
  let stops := [.flowEntry, .flowSequenceEnd]
  if (.value :: stops).contains (← peek).kind then
    emptyNode
    skip
  else child .flow
  memberValue stops (child .flow)
  close .mappingEnd

def flowSequence (child : NodeWriter) (start : Position) : EventWriter Unit := do
  flowEntries .flowSequenceEnd .commaOrBracketMissing .flowSequence start do
    let token ← peek
    match token.kind with
    | .key =>
      EventWriter.write { kind := .mappingStart, place := token.place }
      skip
      flowPair child
    | _ => child .flow
  close .sequenceEnd
  skip

/-- The node of an alias. -/
def aliasNode (name : String) (place : Position) : EventWriter Unit := do
  match (← get).names.lookup name with
  | some number => write { kind := .aliasOf number, place }
  | none => throw (.unknownAnchor place)

/-- A node with nodes nested at most `depth` deep in it. -/
def node : (depth : Nat) → NodeWriter
  | 0, _ => return
  | depth + 1, place => do
    let token ← peek
    if let .aliasOf name := token.kind then
      skip
      aliasNode name token.place
    else
      let properties ← nodeProperties
      let token ← peek
      match token.kind, place with
      | .scalar text isPlain, _ =>
        skip
        let tag := properties.tag.filter (· != Tag.unspecific)
        { properties with tag }.write (.scalar text isPlain)
      | .flowSequenceStart, _ =>
        properties.write .sequenceStart
        skip
        flowSequence (node depth) token.place
      | .flowMappingStart, _ =>
        properties.write .mappingStart
        skip
        flowMapping (node depth) token.place
      | .blockSequenceStart, .block | .blockSequenceStart, .blockMember =>
        properties.write .sequenceStart
        skip
        blockSequence (node depth) token.place
      | .blockMappingStart, .block | .blockMappingStart, .blockMember =>
        properties.write .mappingStart
        skip
        blockMapping (node depth) token.place
      | .blockEntry, .blockMember =>
        properties.write .sequenceStart
        indentlessSequence (node depth)
      | _, _ =>
        if properties.anchor.isSome || properties.tag.isSome then properties.write (.scalar "" true)
        else nodeMissing place token

/-! ## Documents -/

/-- The handles that need no directive. -/
def commonHandles : List (String × Tag) := [("!", Tag.unspecific), ("!!", Tag.ofText "tag:yaml.org,2002:")]

/-- What a directive says holds for the document behind it. -/
def obey (directive : Directive) (place : Position) : EventWriter Unit := do
  let s ← get
  match directive with
  | .version major minor =>
    if s.versioned then throw (.malformed .versionTwice place none)
    else if major ≠ 1 || (minor ≠ 1 && minor ≠ 2) then throw (.malformed .unknownVersion place none)
    else set { s with versioned := true }
  | .handle name tag =>
    if (s.handles.lookup name).isSome then throw (.malformed .handleTwice place none)
    else set { s with handles := s.handles ++ [(name, tag)] }

def directives : EventWriter Unit := do
  entries fun _ => do
    let token ← peek
    match token.kind with
    | .directive directive =>
      obey directive token.place
      skip
      return true
    | _ => return false

/-- Documents end with tokens of these kinds, and begin with some of them. -/
def TokenKind.isBetweenDocuments : TokenKind → Bool
  | .directive _ | .documentStart | .documentEnd | .streamEnd => true
  | _ => false

/-- The events of the document that is next. A text may have none at all. -/
def document : EventWriter Unit := do
  let root := do node ((← get).stream.tokens.length + 1) .block
  let useCommonHandles : EventWriter Unit := modify fun s => { s with handles := s.handles ++ commonHandles }
  match (← peek).kind with
  | .streamEnd => return
  | .directive _ | .documentStart =>
    directives
    let token ← peek
    if token.kind ≠ .documentStart then throw (.malformed .documentStartMissing token.place none)
    useCommonHandles
    if (← skipPeek).kind.isBetweenDocuments then emptyNode else root
  | _ =>
    useCommonHandles
    root
  let _ ← peek

/-- The document that is next, and the tokens behind it. -/
def Document.read (stream : TokenStream) : Document × TokenStream :=
  let (result, progress) := (document.run).run { stream }
  match result with
  | .ok _ => (progress.document, progress.stream)
  | .error fault => ({ progress.document with fault := some fault }, progress.stream)

end Schemata.Yaml
