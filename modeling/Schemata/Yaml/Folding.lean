import Schemata.Json.Reader
import Schemata.Yaml.Cursor

/-!
# Scalars over several lines

* `Gap` : the blanks between two words of a scalar; `Gap.fill` is what is left of them: one line break
  becomes a space, of several all but the first stay, and blanks around line breaks go;
* `singleQuoted`, `doubleQuoted` : the rest of a quoted scalar;
* `plain` : a scalar without quotes, which ends where its surroundings need the text.

Each reader works on the characters that are left and gives back a `Cursor`.
-/

namespace Schemata.Yaml

/-! ## Gaps -/

/-- Blanks between two words: either blanks of one line, or line breaks. Lists have the last character
first. -/
structure Gap where
  spaces : List Char := []
  broken : Bool := false
  /-- The first line break, unless an escape has taken it away. -/
  first : Option Char := none
  later : List Char := []

namespace Gap

def isEmpty (gap : Gap) : Bool := gap.spaces.isEmpty && !gap.broken

def addSpace (gap : Gap) (c : Char) : Gap :=
  if gap.broken then gap else { gap with spaces := c :: gap.spaces }

def addBreak (gap : Gap) (c : Char) : Gap :=
  if gap.broken then { gap with later := breakChar c :: gap.later }
  else { broken := true, first := some (breakChar c) }

/-- What is left of a gap, put before the characters that precede it. -/
def fill (gap : Gap) (read : List Char) : List Char :=
  if gap.broken then
    match gap.first with
    | some '\n' => if gap.later.isEmpty then ' ' :: read else gap.later ++ read
    | some c => gap.later ++ c :: read
    | none => gap.later ++ read
  else gap.spaces ++ read

/-- The gap after an escaped line break. -/
def escapedBreak : Gap := { broken := true }

end Gap

/-! ## Quoted scalars -/

/-- A fault within a quoted scalar that began at `start`. -/
def quotedFault {α : Type} (fault : Fault) (place start : Position) : Except Error α :=
  .error (.malformed fault place (some (.quotedScalar, start)))

/-- The rest of a scalar in single quotes; a quote is written twice. -/
def singleQuoted (start : Position) (read : List Char) (gap : Gap) :
    List Char → Position → Except Error (List Char × Cursor)
  | [], p => quotedFault .endInside p start
  | '\r' :: '\n' :: rest, p => singleQuoted start read (gap.addBreak '\n') rest (p.nextLine 2)
  | '\'' :: '\'' :: rest, p => singleQuoted start ('\'' :: gap.fill read) {} rest p.next.next
  | c :: rest, p =>
    if p.column = 0 ∧ isDocumentMark (c :: rest) then quotedFault .documentMarkInside p start
    else if c = '\'' then .ok ((gap.fill read).reverse, ⟨rest, p.next⟩)
    else if isBreak c then singleQuoted start read (gap.addBreak c) rest (p.nextLine 1)
    else if isSpace c then singleQuoted start read (gap.addSpace c) rest p.next
    else singleQuoted start (c :: gap.fill read) {} rest p.next

def escape? : Char → Option Char
  | '0' => some '\x00'
  | 'a' => some '\x07'
  | 'b' => some '\x08'
  | 't' | '\t' => some '\t'
  | 'n' => some '\n'
  | 'v' => some '\x0b'
  | 'f' => some '\x0c'
  | 'r' => some '\r'
  | 'e' => some '\x1b'
  | ' ' => some ' '
  | '"' => some '"'
  | '/' => some '/'
  | '\\' => some '\\'
  | 'N' => some '\u0085'
  | '_' => some '\u00a0'
  | 'L' => some '\u2028'
  | 'P' => some '\u2029'
  | _ => none

def hexChar (digits : List Char) : Except Fault Char :=
  match digits.mapM Json.Reader.hexValue? with
  | none => .error .hexDigitsMissing
  | some values =>
    let n := values.foldl (fun n d => 16 * n + d) 0
    if n.isValidChar then .ok (Char.ofNat n) else .error .invalidCodePoint

/-- The rest of a scalar in double quotes, with escapes. -/
def doubleQuoted (start : Position) (read : List Char) (gap : Gap) :
    List Char → Position → Except Error (List Char × Cursor)
  | [], p => quotedFault .endInside p start
  | '\r' :: '\n' :: rest, p => doubleQuoted start read (gap.addBreak '\n') rest (p.nextLine 2)
  | '\\' :: '\r' :: '\n' :: rest, p =>
    doubleQuoted start (gap.fill read) .escapedBreak rest (p.next.nextLine 2)
  | '\\' :: 'x' :: a :: b :: rest, p =>
    match hexChar [a, b] with
    | .ok c =>
      doubleQuoted start (c :: gap.fill read) {} rest { p with index := p.index + 4, column := p.column + 4 }
    | .error fault => .error (.malformed fault p.next.next (some (.escape, start)))
  | '\\' :: 'u' :: a :: b :: c :: d :: rest, p =>
    match hexChar [a, b, c, d] with
    | .ok c =>
      doubleQuoted start (c :: gap.fill read) {} rest { p with index := p.index + 6, column := p.column + 6 }
    | .error fault => .error (.malformed fault p.next.next (some (.escape, start)))
  | '\\' :: 'U' :: a :: b :: c :: d :: e :: f :: g :: h :: rest, p =>
    match hexChar [a, b, c, d, e, f, g, h] with
    | .ok c =>
      doubleQuoted start (c :: gap.fill read) {} rest
        { p with index := p.index + 10, column := p.column + 10 }
    | .error fault => .error (.malformed fault p.next.next (some (.escape, start)))
  | '\\' :: c :: rest, p =>
    if isBreak c then doubleQuoted start (gap.fill read) .escapedBreak rest (p.next.nextLine 1)
    else if c = 'x' ∨ c = 'u' ∨ c = 'U' then
      .error (.malformed .hexDigitsMissing p.next.next (some (.escape, start)))
    else
      match escape? c with
      | some c => doubleQuoted start (c :: gap.fill read) {} rest p.next.next
      | none => .error (.malformed .unknownEscape p (some (.escape, start)))
  | c :: rest, p =>
    if p.column = 0 ∧ isDocumentMark (c :: rest) then quotedFault .documentMarkInside p start
    else if c = '"' then .ok ((gap.fill read).reverse, ⟨rest, p.next⟩)
    else if c = '\\' then .error (.malformed .unknownEscape p (some (.escape, start)))
    else if isBreak c then doubleQuoted start read (gap.addBreak c) rest (p.nextLine 1)
    else if isSpace c then doubleQuoted start read (gap.addSpace c) rest p.next
    else doubleQuoted start (c :: gap.fill read) {} rest p.next

/-! ## Plain scalars -/

/-- The character belongs to the form of flow collections. -/
def isFlowMark (c : Char) : Bool := c == ',' || c == '[' || c == ']' || c == '\x7b' || c == '\x7d'

/-- A colon may not stand right before this character of a flow collection. -/
def refusesColon : List Char → Bool
  | c :: _ => isFlowMark c || c == '?'
  | [] => false

/-- A plain scalar, with whether line breaks follow its last word. In a block it ends at a line whose
indentation is below `indent`. -/
def plain (inFlow : Bool) (indent : Nat) (start : Position) (read : List Char) (gap : Gap) :
    List Char → Position → Except Error (List Char × Bool × Cursor)
  | [], p => .ok (read.reverse, gap.broken, ⟨[], p⟩)
  | '\r' :: '\n' :: rest, p => plain inFlow indent start read (gap.addBreak '\n') rest (p.nextLine 2)
  | c :: rest, p =>
    if isBreak c then plain inFlow indent start read (gap.addBreak c) rest (p.nextLine 1)
    else if isSpace c then
      if gap.broken && c == '\t' && p.column < indent then
        .error (.malformed .tabInIndentation p (some (.plainScalar, start)))
      else plain inFlow indent start read (gap.addSpace c) rest p.next
    else if !gap.isEmpty && (c == '#' || (!inFlow && p.column < indent) ||
        (p.column == 0 && isDocumentMark (c :: rest))) then
      .ok (read.reverse, gap.broken, ⟨c :: rest, p⟩)
    else if inFlow && c == ':' && refusesColon rest then
      .error (.malformed .colonInside p (some (.plainScalar, start)))
    else if (c == ':' && wordEnds rest) || (inFlow && isFlowMark c) then
      .ok (read.reverse, gap.broken, ⟨c :: rest, p⟩)
    else plain inFlow indent start (c :: gap.fill read) {} rest p.next

end Schemata.Yaml
