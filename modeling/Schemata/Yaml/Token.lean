import Schemata.Yaml.Block
import Schemata.Yaml.Folding
import Schemata.Yaml.Tag

/-!
# Tokens of YAML text

* `Token` : what the indentation, the marks, the names and the scalars of a text say;
* `Scanner` : how far a text is read. A scalar or a collection may turn out to be a key only when a colon
  follows; until then it is a `PendingKey`, and the token before it may still be put in;
* `Scanner.advance` : read up to the end of the next token;
* `TokenStream.ofText` : all tokens of a text, and the fault that ends them, if there is one.

A reader of tokens never sees one that a fault overtakes while it is still waiting to become a key.
-/

namespace Schemata.Yaml

/-- What a token says. The collections of indented blocks begin and end with tokens of their own. -/
inductive TokenKind where
  | directive (directive : Directive)
  | documentStart | documentEnd | streamEnd
  | blockSequenceStart | blockMappingStart | blockEnd
  | flowSequenceStart | flowSequenceEnd | flowMappingStart | flowMappingEnd
  | blockEntry | flowEntry | key | value
  | aliasOf (name : String)
  | anchor (name : String)
  | tag (tag : WrittenTag)
  | scalar (text : String) (isPlain : Bool)
  deriving DecidableEq, Repr

structure Token where
  kind : TokenKind
  place : Position
  deriving DecidableEq

/-- A token that a following colon makes a key. -/
structure PendingKey where
  /-- How many tokens precede it. -/
  number : Nat
  place : Position
  /-- Nothing but a key may stand there. -/
  required : Bool

/-- The key must end in its line and within 1024 characters. -/
def PendingKey.isStale (k : PendingKey) (p : Position) : Bool :=
  k.place.line < p.line || k.place.index + 1024 < p.index

/-- How far a text is read. -/
structure Scanner where
  cursor : Cursor
  /-- The column of the innermost block, below zero outside of all blocks. -/
  indent : Int := -1
  /-- The columns of the blocks around it, the innermost first. -/
  indents : List Int := []
  /-- The pending key of the innermost flow collection, or else of the block. -/
  pending : Option PendingKey := none
  /-- The pending keys around it; there is one for each open flow collection. -/
  outer : List (Option PendingKey) := []
  keyAllowed : Bool := true
  tokens : Array Token := #[]

namespace Scanner

def place (s : Scanner) : Position := s.cursor.place

def inFlow (s : Scanner) : Bool := !s.outer.isEmpty

def fault {α : Type} (s : Scanner) (fault : Fault) (setting : Option (Setting × Position)) :
    Except Error α :=
  .error (.malformed fault s.place setting)

def push (s : Scanner) (kind : TokenKind) (place : Position) : Scanner :=
  { s with tokens := s.tokens.push ⟨kind, place⟩ }

/-- Put a token before the one of a number. -/
def insert (s : Scanner) (number : Nat) (kind : TokenKind) (place : Position) : Scanner :=
  { s with tokens := s.tokens.insertIdxIfInBounds number ⟨kind, place⟩ }

/-- Take so many characters of one line. -/
def skip (s : Scanner) (count : Nat) : Scanner := { s with cursor := s.cursor.skip count }

/-! ## Keys -/

/-- Drop a pending key that cannot become a key any more. -/
def settle (s : Scanner) (pending : Option PendingKey) : Except Error (Option PendingKey) :=
  match pending with
  | some k =>
    if !k.isStale s.place then .ok pending
    else if k.required then s.fault .colonMissing (some (.simpleKey, k.place))
    else .ok none
  | none => .ok none

/-- Drop the pending keys that cannot become keys any more. -/
def settleKeys (s : Scanner) : Except Error Scanner := do
  return { s with outer := ← s.outer.mapM s.settle, pending := ← s.settle s.pending }

/-- The innermost pending key does not become a key. -/
def dropKey (s : Scanner) : Except Error Scanner :=
  match s.pending with
  | some k =>
    if k.required then s.fault .colonMissing (some (.simpleKey, k.place))
    else .ok { s with pending := none }
  | none => .ok s

/-- The token that follows may become a key. -/
def awaitKey (s : Scanner) : Except Error Scanner :=
  if s.keyAllowed then do
    let required := !s.inFlow && s.indent == s.place.column
    let s ← s.dropKey
    return { s with pending := some ⟨s.tokens.size, s.place, required⟩ }
  else .ok s

/-- The number of the first token that may still become a key, or else of the next token. -/
def firstPending (s : Scanner) : Nat :=
  (s.pending :: s.outer).foldl (fun n pending => pending.elim n fun k => min n k.number) s.tokens.size

/-! ## Indentation -/

/-- Open a block at a column that lies deeper, the token of its beginning before that of a number. -/
def indentTo (s : Scanner) (column number : Nat) (kind : TokenKind) (place : Position) : Scanner :=
  if !s.inFlow && s.indent < column then
    { s.insert number kind place with indents := s.indent :: s.indents, indent := column }
  else s

/-- Close the blocks that lie deeper than a column. -/
def closeBlocks (column : Int) (place : Position) (indent : Int) (tokens : Array Token) :
    (outer : List Int) → Int × List Int × Array Token
  | [] => (indent, [], tokens)
  | next :: outer =>
    if column < indent then closeBlocks column place next (tokens.push ⟨.blockEnd, place⟩) outer
    else (indent, next :: outer, tokens)

/-- Close the blocks that lie deeper than a column; a flow collection has no indentation. -/
def unindentTo (s : Scanner) (column : Int) : Scanner :=
  if s.inFlow then s
  else
    let (indent, indents, tokens) := closeBlocks column s.place s.indent s.tokens s.indents
    { s with indent, indents, tokens }

/-! ## Blanks -/

/-- Skip blanks, comments and line breaks. A new line of a block may begin with a key; where one may
stand, tabs are no blanks. -/
def skipBlanks (inFlow : Bool) : (keyAllowed inComment : Bool) → List Char → Position → Bool × Cursor
  | keyAllowed, _, [], p => (keyAllowed, ⟨[], p⟩)
  | keyAllowed, _, '\r' :: '\n' :: rest, p =>
    skipBlanks inFlow (keyAllowed || !inFlow) false rest (p.nextLine 2)
  | keyAllowed, inComment, c :: rest, p =>
    if isBreak c then skipBlanks inFlow (keyAllowed || !inFlow) false rest (p.nextLine 1)
    else if inComment || c == '#' then skipBlanks inFlow keyAllowed true rest p.next
    else if c == ' ' || (c == '\t' && (inFlow || !keyAllowed)) || (c == '\ufeff' && p.index == 0) then
      skipBlanks inFlow keyAllowed false rest p.next
    else (keyAllowed, ⟨c :: rest, p⟩)

/-! ## Tokens -/

def finish (s : Scanner) : Except Error Scanner := do
  let p := s.place
  let p := if p.column = 0 then p else { p with line := p.line + 1, column := 0 }
  let s ← ({ s with cursor := ⟨[], p⟩ }.unindentTo (-1)).dropKey
  return { s with keyAllowed := false }.push .streamEnd p

def documentMark (s : Scanner) (kind : TokenKind) : Except Error Scanner := do
  let s ← (s.unindentTo (-1)).dropKey
  return { s with keyAllowed := false }.push kind s.place |>.skip 3

def directive (s : Scanner) : Except Error Scanner := do
  let s ← (s.unindentTo (-1)).dropKey
  let (directive, cursor) ← Directive.read s.cursor
  return { s with keyAllowed := false, cursor }.push (.directive directive) s.place

def openFlow (s : Scanner) (kind : TokenKind) : Except Error Scanner := do
  let s ← s.awaitKey
  let s := { s with outer := s.pending :: s.outer, pending := none, keyAllowed := true }
  return s.push kind s.place |>.skip 1

def closeFlow (s : Scanner) (kind : TokenKind) : Except Error Scanner := do
  let s ← s.dropKey
  let s := match s.outer with
    | pending :: outer => { s with pending, outer }
    | [] => s
  return { s with keyAllowed := false }.push kind s.place |>.skip 1

def flowEntry (s : Scanner) : Except Error Scanner := do
  let s ← s.dropKey
  return { s with keyAllowed := true }.push .flowEntry s.place |>.skip 1

def blockEntry (s : Scanner) : Except Error Scanner := do
  if !s.inFlow && !s.keyAllowed then s.fault .entryNotAllowed none
  else
    let s ← (s.indentTo s.place.column s.tokens.size .blockSequenceStart s.place).dropKey
    return { s with keyAllowed := true }.push .blockEntry s.place |>.skip 1

def explicitKey (s : Scanner) : Except Error Scanner := do
  if !s.inFlow && !s.keyAllowed then s.fault .keyNotAllowed none
  else
    let s ← (s.indentTo s.place.column s.tokens.size .blockMappingStart s.place).dropKey
    return { s with keyAllowed := !s.inFlow }.push .key s.place |>.skip 1

/-- The colon before a value. It makes the pending token a key. -/
def colon (s : Scanner) : Except Error Scanner :=
  match s.pending with
  | some k =>
    let s := (s.insert k.number .key k.place).indentTo k.place.column k.number .blockMappingStart k.place
    return { s with pending := none, keyAllowed := false }.push .value s.place |>.skip 1
  | none =>
    if !s.inFlow && !s.keyAllowed then s.fault .valueNotAllowed none
    else
      let s := s.indentTo s.place.column s.tokens.size .blockMappingStart s.place
      return { s with keyAllowed := !s.inFlow }.push .value s.place |>.skip 1

/-- A name or tag of the node that follows, or an alias for a node. It may begin a key. -/
def nodeMark {α : Type} (s : Scanner) (kind : α → TokenKind) (read : Cursor → Except Error (α × Cursor)) :
    Except Error Scanner := do
  let s ← s.awaitKey
  let (mark, cursor) ← read s.cursor
  return { s with keyAllowed := false, cursor }.push (kind mark) s.place

/-- A scalar in lines of its own. -/
def blockScalar (s : Scanner) (folded : Bool) : Except Error Scanner := do
  let s ← s.dropKey
  let (chars, cursor) ← Block.scalar s.place folded s.indent (s.skip 1).cursor
  return { s with keyAllowed := true, cursor }.push (.scalar (String.ofList chars) false) s.place

def quotedScalar (s : Scanner)
    (rest : (start : Position) → (read : List Char) → Gap → List Char → Position →
      Except Error (List Char × Cursor)) : Except Error Scanner := do
  let s ← s.awaitKey
  let start := s.place
  let (chars, cursor) ← rest start [] {} (s.skip 1).cursor.rest start.next
  return { s with keyAllowed := false, cursor }.push (.scalar (String.ofList chars) false) start

/-- A scalar without quotes. A key may follow where it ends with a line. -/
def plainScalar (s : Scanner) : Except Error Scanner := do
  let s ← s.awaitKey
  let start := s.place
  let (chars, lineEnded, cursor) ← plain s.inFlow (s.indent + 1).toNat start [] {} s.cursor.rest start
  return { s with keyAllowed := lineEnded, cursor }.push (.scalar (String.ofList chars) true) start

def isIndicator (c : Char) : Bool :=
  isSpace c || isBreak c || isFlowMark c ||
    ['-', '?', ':', '#', '&', '*', '!', '|', '>', '\'', '"', '%', '@', '\x60'].contains c

/-- Read up to the end of the next token. -/
def advance (s : Scanner) : Except Error Scanner := do
  let (keyAllowed, cursor) := skipBlanks s.inFlow s.keyAllowed false s.cursor.rest s.place
  let s ← { s with keyAllowed, cursor }.settleKeys
  let s := s.unindentTo s.place.column
  match s.cursor.rest with
  | [] => s.finish
  | c :: rest =>
    if s.place.column = 0 ∧ isDocumentMark (c :: rest) then
      s.documentMark (if c = '-' then .documentStart else .documentEnd)
    else if s.place.column = 0 ∧ c = '%' then s.directive
    else
      match c with
      | '[' => s.openFlow .flowSequenceStart
      | '\x7b' => s.openFlow .flowMappingStart
      | ']' => s.closeFlow .flowSequenceEnd
      | '\x7d' => s.closeFlow .flowMappingEnd
      | ',' => s.flowEntry
      | '\'' => s.quotedScalar singleQuoted
      | '"' => s.quotedScalar doubleQuoted
      | '*' => s.nodeMark .aliasOf (anchorName .aliasName)
      | '&' => s.nodeMark .anchor (anchorName .anchorName)
      | '!' => s.nodeMark .tag (WrittenTag.read s.inFlow)
      | _ =>
        if c = '-' ∧ wordEnds rest then s.blockEntry
        else if c = '?' ∧ (s.inFlow ∨ wordEnds rest) then s.explicitKey
        else if c = ':' ∧ (s.inFlow ∨ wordEnds rest) then s.colon
        else if (c = '|' ∨ c = '>') ∧ !s.inFlow then s.blockScalar (c = '>')
        else if !isIndicator c ∨ c = '-' ∨ (!s.inFlow ∧ (c = '?' ∨ c = ':')) then s.plainScalar
        else s.fault .noTokenHere (some (.nextToken, s.place))

end Scanner

/-! ## Streams -/

/-- The tokens that can be read, and what stands after them: the fault of the text, if it has one. -/
structure TokenStream where
  tokens : List Token
  fault : Option Error := none

namespace TokenStream

/-- The last token of a text without fault. -/
def ended (tokens : Array Token) : Bool := tokens.back?.any fun token => token.kind == .streamEnd

/-- Read token by token. The tokens from `limit` on are not to be seen when a fault follows. -/
def scan : (fuel : Nat) → Scanner → TokenStream
  | 0, s => { tokens := s.tokens.toList }
  | fuel + 1, s =>
    match s.advance.bind Scanner.settleKeys with
    | .error e => { tokens := s.tokens.toList.take s.firstPending, fault := some e }
    | .ok s => if ended s.tokens then { tokens := s.tokens.toList } else scan fuel s

/-- The character may stand in a text. -/
def isAllowed (c : Char) : Bool :=
  c == '\t' || c == '\n' || c == '\r' || ('\x20' ≤ c && c ≤ '\x7e') || c == '\u0085' ||
    ('\u00a0' ≤ c && c ≤ '\ufffd') || 0x10000 ≤ c.toNat

/-- All tokens of a text. Each takes at least one character, and so does the end of the text. -/
def ofText (text : String) : TokenStream :=
  let chars := text.toList
  let allowed := chars.takeWhile isAllowed
  if allowed.length < chars.length then
    { tokens := [], fault := some (.controlCharacter (String.ofList allowed).utf8ByteSize) }
  else scan (chars.length + 1) { cursor := ⟨chars, {}⟩ }

end TokenStream

end Schemata.Yaml
