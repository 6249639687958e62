import Schemata.Yaml.Error

/-!
# Reading YAML text

* `Cursor` : the characters that are left and where they stand;
* `isBreak`, `isSpace`, `wordEnds`, `isDocumentMark` : what ends lines, words and documents;
* `Cursor.skip`, `Cursor.takeWhile` : steps within a line;
* `Cursor.leaveLine` : to the next line, where nothing but a comment is left of this one.
-/

namespace Schemata.Yaml

/-! ## Classes of characters -/

def isBreak (c : Char) : Bool :=
  c == '\n' || c == '\r' || c == '\u0085' || c == '\u2028' || c == '\u2029'

def isSpace (c : Char) : Bool := c == ' ' || c == '\t'

/-- A line ends here. -/
def lineEnds : List Char → Bool
  | [] => true
  | c :: _ => isBreak c

/-- A word ends here. -/
def wordEnds : List Char → Bool
  | [] => true
  | c :: _ => isSpace c || isBreak c

/-- A line that begins so separates documents. -/
def isDocumentMark : List Char → Bool
  | '-' :: '-' :: '-' :: rest | '.' :: '.' :: '.' :: rest => wordEnds rest
  | _ => false

/-- What is left of a line break: the separators of Unicode stay, all others are line feeds. -/
def breakChar (c : Char) : Char := if c == '\u2028' || c == '\u2029' then c else '\n'

/-- The characters of names. -/
def isNameChar (c : Char) : Bool := c.isAlphanum || c == '_' || c == '-'

/-! ## Cursors -/

/-- The characters that are left and the place of the first of them. -/
structure Cursor where
  rest : List Char
  place : Position

namespace Cursor

/-- Take so many characters of one line. -/
def skip (cursor : Cursor) (count : Nat) : Cursor :=
  let p := cursor.place
  ⟨cursor.rest.drop count, { p with index := p.index + count, column := p.column + count }⟩

/-- Take the characters of one line that are of a kind. -/
def takeWhile (cursor : Cursor) (p : Char → Bool) : List Char × Cursor :=
  let taken := cursor.rest.takeWhile p
  (taken, cursor.skip taken.length)

def skipBreak (cursor : Cursor) : Cursor :=
  match cursor.rest with
  | '\r' :: '\n' :: rest => ⟨rest, cursor.place.nextLine 2⟩
  | _ :: rest => ⟨rest, cursor.place.nextLine 1⟩
  | [] => cursor

/-- Fail at the character that is next, in what began at `start`. -/
def fault {α : Type} (cursor : Cursor) (fault : Fault) (setting : Setting) (start : Position) : Except Error α :=
  .error (.malformed fault cursor.place (some (setting, start)))

/-- Go to the next line. Nothing but blanks and a comment may be left of this one. -/
def leaveLine (cursor : Cursor) (setting : Setting) (start : Position) : Except Error Cursor :=
  let (_, cursor) := cursor.takeWhile isSpace
  let (_, cursor) := if cursor.rest.head? = some '#' then cursor.takeWhile (!isBreak ·) else ([], cursor)
  if lineEnds cursor.rest then .ok cursor.skipBreak else cursor.fault .commentOrBreakMissing setting start

end Cursor

end Schemata.Yaml
