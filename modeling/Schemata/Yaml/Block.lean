import Schemata.Yaml.Cursor

/-!
# Scalars in blocks

* `Header` : how a block scalar begins: whether its lines are folded, which line breaks stay at its end,
  and how deep it is indented where that is told;
* `depthOfLines` : how deep it is indented otherwise;
* `Lines` : the lines read so far; `Lines.beginLine` folds, `Lines.ended` keeps the breaks at the end;
* `scalar` : the text of a block scalar.
-/

namespace Schemata.Yaml.Block

/-! ## Headers -/

/-- Which line breaks stay at the end of the text: none, one, or all. -/
inductive Chomping where
  | strip | clip | keep
  deriving DecidableEq, Repr

structure Header where
  folded : Bool
  chomping : Chomping := .clip
  /-- How much deeper than the block around them the lines stand. -/
  depth : Option Nat := none

def chomping? : Char → Option Chomping
  | '-' => some .strip
  | '+' => some .keep
  | _ => none

/-- The two marks of a header that may follow its first character, in any order and each at most once. -/
def header (start : Position) (folded : Bool) (cursor : Cursor) : Except Error (Header × Cursor) := do
  let (early, cursor) := chomping cursor
  let (depth, cursor) ← depth cursor
  let (late, cursor) := if early.isNone && depth.isSome then chomping cursor else (early, cursor)
  return ({ folded, depth, chomping := late.getD .clip }, ← cursor.leaveLine .blockScalar start)
where
  chomping (cursor : Cursor) : Option Chomping × Cursor :=
    match cursor.rest.head?.bind chomping? with
    | some found => (some found, cursor.skip 1)
    | none => (none, cursor)
  depth (cursor : Cursor) : Except Error (Option Nat × Cursor) :=
    match cursor.rest with
    | '0' :: _ => cursor.fault .zeroIndentation .blockScalar start
    | c :: _ => if c.isDigit then .ok (some (c.toNat - 48), cursor.skip 1) else .ok (none, cursor)
    | [] => .ok (none, cursor)

/-! ## Lines -/

/-- How deep the deepest of the first lines begins, up to one that is not empty. -/
def depthOfLines (start : Position) (deepest : Nat) : List Char → Position → Except Error Nat
  | [], p => .ok (max deepest p.column)
  | '\r' :: '\n' :: rest, p => depthOfLines start (max deepest p.column) rest (p.nextLine 2)
  | c :: rest, p =>
    if c = ' ' then depthOfLines start deepest rest p.next
    else if c = '\t' then .error (.malformed .tabInBlock p (some (.blockScalar, start)))
    else if isBreak c then depthOfLines start (max deepest p.column) rest (p.nextLine 1)
    else .ok (max deepest p.column)

/-- What is read of a block scalar. Lists have the last character first. -/
structure Lines where
  read : List Char := []
  /-- The line break at the end of the last line that is not empty. -/
  lineBreak : Option Char := none
  /-- The line breaks of the empty lines since. -/
  empty : List Char := []
  /-- The last line that is not empty begins with a blank. -/
  indented : Bool := false

namespace Lines

/-- The lines before one that begins with a character. Between two lines that both begin with a word, the
break is folded. -/
def beginLine (lines : Lines) (folded : Bool) (c : Char) : Lines :=
  let read :=
    if folded && lines.lineBreak == some '\n' && !lines.indented && !isSpace c then
      if lines.empty.isEmpty then ' ' :: lines.read else lines.read
    else lines.lineBreak.toList ++ lines.read
  { read := lines.empty ++ read, indented := isSpace c }

/-- A line break, at the end of a line or of an empty one. -/
def addBreak (lines : Lines) (inLine : Bool) (c : Char) : Lines :=
  if inLine then { lines with lineBreak := some (breakChar c) }
  else { lines with empty := breakChar c :: lines.empty }

def ended (lines : Lines) (chomping : Chomping) : List Char :=
  match chomping with
  | .strip => lines.read
  | .clip => lines.lineBreak.toList ++ lines.read
  | .keep => lines.empty ++ lines.lineBreak.toList ++ lines.read

/-- Read the lines that are indented so deep. -/
def readAll (folded : Bool) (depth : Nat) (start : Position) (lines : Lines) (inLine : Bool) :
    List Char → Position → Except Error (Lines × Cursor)
  | [], p => .ok (lines, ⟨[], p⟩)
  | '\r' :: '\n' :: rest, p => readAll folded depth start (lines.addBreak inLine '\n') false rest (p.nextLine 2)
  | c :: rest, p =>
    if isBreak c then readAll folded depth start (lines.addBreak inLine c) false rest (p.nextLine 1)
    else if inLine then readAll folded depth start { lines with read := c :: lines.read } true rest p.next
    else if p.column < depth && c == ' ' then readAll folded depth start lines false rest p.next
    else if p.column < depth && c == '\t' then .error (.malformed .tabInBlock p (some (.blockScalar, start)))
    else if p.column = depth then
      let before := lines.beginLine folded c
      readAll folded depth start { before with read := c :: before.read } true rest p.next
    else .ok (lines, ⟨c :: rest, p⟩)

end Lines

/-- The text of a block scalar behind its first character, in a block at a column or outside of all. -/
def scalar (start : Position) (folded : Bool) (indent : Int) (cursor : Cursor) :
    Except Error (List Char × Cursor) := do
  let (header, cursor) ← header start folded cursor
  let depth ← match header.depth with
    | some depth => pure (indent.toNat + depth)
    | none => do
      let deepest ← depthOfLines start 0 cursor.rest cursor.place
      pure (max deepest (max (indent + 1).toNat 1))
  let (lines, cursor) ← Lines.readAll header.folded depth start {} false cursor.rest cursor.place
  return ((lines.ended header.chomping).reverse, cursor)

end Schemata.Yaml.Block
