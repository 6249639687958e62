import Schemata.Text.Quoted

/-!
# Faults of YAML text

* `Position` : a place in a text;
* `Fault`, `Setting` : what is wrong with the form of a text, and what was being read there;
* `ValueFault` : what is wrong with a well-formed text whose value is wanted;
* `Error` : a fault and its place; `Error.message` : its wording.
-/

namespace Schemata.Yaml

/-- A place in a text: characters before it, lines before it, characters before it in its line. -/
structure Position where
  index : Nat := 0
  line : Nat := 0
  column : Nat := 0
  deriving DecidableEq, Repr

namespace Position

def next (p : Position) : Position := { p with index := p.index + 1, column := p.column + 1 }

/-- The place after a line break of so many characters. -/
def nextLine (p : Position) (size : Nat) : Position := ⟨p.index + size, p.line + 1, 0⟩

/-- Messages count lines and columns from one and do not name the very first place. -/
def phrase (p : Position) : String :=
  if p.line = 0 ∧ p.column = 0 then ""
  else " at line " ++ toString (p.line + 1) ++ " column " ++ toString (p.column + 1)

end Position

inductive Fault where
  | noTokenHere
  | entryNotAllowed | keyNotAllowed | valueNotAllowed | colonMissing
  | documentMarkInside | endInside
  | unknownEscape | hexDigitsMissing | invalidCodePoint
  | colonInside | tabInIndentation
  | zeroIndentation | tabInBlock | commentOrBreakMissing
  | anchorNameMissing
  | tagMarkMissing | tagUriMissing | tagEndMissing | octetMissing | wrongLeadingOctet | wrongTrailingOctet
  | blankMissing | blankOrBreakMissing
  | directiveNameMissing | wrongDirectiveName | unknownDirective
  | versionMissing | versionTooLong | versionPointMissing
  | versionTwice | unknownVersion | handleTwice | unknownHandle
  | documentStartMissing | nodeMissing | dashMissing | keyMissing
  | commaOrBracketMissing | commaOrBraceMissing
  deriving DecidableEq, Repr

def Fault.message : Fault → String
  | noTokenHere => "found character that cannot start any token"
  | entryNotAllowed => "block sequence entries are not allowed in this context"
  | keyNotAllowed => "mapping keys are not allowed in this context"
  | valueNotAllowed => "mapping values are not allowed in this context"
  | colonMissing => "could not find expected ':'"
  | documentMarkInside => "found unexpected document indicator"
  | endInside => "found unexpected end of stream"
  | unknownEscape => "found unknown escape character"
  | hexDigitsMissing => "did not find expected hexdecimal number"
  | invalidCodePoint => "found invalid Unicode character escape code"
  | colonInside => "found unexpected ':'"
  | tabInIndentation => "found a tab character that violates indentation"
  | zeroIndentation => "found an indentation indicator equal to 0"
  | tabInBlock => "found a tab character where an indentation space is expected"
  | commentOrBreakMissing => "did not find expected comment or line break"
  | anchorNameMissing => "did not find expected alphabetic or numeric character"
  | tagMarkMissing => "did not find expected '!'"
  | tagUriMissing => "did not find expected tag URI"
  | tagEndMissing => "did not find the expected '>'"
  | octetMissing => "did not find URI escaped octet"
  | wrongLeadingOctet => "found an incorrect leading UTF-8 octet"
  | wrongTrailingOctet => "found an incorrect trailing UTF-8 octet"
  | blankMissing => "did not find expected whitespace"
  | blankOrBreakMissing => "did not find expected whitespace or line break"
  | directiveNameMissing => "could not find expected directive name"
  | wrongDirectiveName => "found unexpected non-alphabetical character"
  | unknownDirective => "found unknown directive name"
  | versionMissing => "did not find expected version number"
  | versionTooLong => "found extremely long version number"
  | versionPointMissing => "did not find expected digit or '.' character"
  | versionTwice => "found duplicate %YAML directive"
  | unknownVersion => "found incompatible YAML document"
  | handleTwice => "found duplicate %TAG directive"
  | unknownHandle => "found undefined tag handle"
  | documentStartMissing => "did not find expected <document start>"
  | nodeMissing => "did not find expected node content"
  | dashMissing => "did not find expected '-' indicator"
  | keyMissing => "did not find expected key"
  | commaOrBracketMissing => "did not find expected ',' or ']'"
  | commaOrBraceMissing => "did not find expected ',' or '\x7d'"

inductive Setting where
  | nextToken | simpleKey | quotedScalar | escape | plainScalar | blockScalar
  | anchorName | aliasName | tag | tagUri
  | directive | versionDirective | tagDirective | tagDirectiveMark | tagDirectiveHandle | tagDirectiveUri
  | node | blockNode | flowNode | blockCollection | blockMapping | flowSequence | flowMapping
  deriving DecidableEq, Repr

def Setting.message : Setting → String
  | nextToken => "while scanning for the next token"
  | simpleKey => "while scanning a simple key"
  | quotedScalar => "while scanning a quoted scalar"
  | escape => "while parsing a quoted scalar"
  | plainScalar => "while scanning a plain scalar"
  | blockScalar => "while scanning a block scalar"
  | anchorName => "while scanning an anchor"
  | aliasName => "while scanning an alias"
  | tag => "while scanning a tag"
  | tagUri => "while parsing a tag"
  | directive => "while scanning a directive"
  | versionDirective => "while scanning a %YAML directive"
  | tagDirective => "while scanning a %TAG directive"
  | tagDirectiveMark => "while scanning a tag directive"
  | tagDirectiveHandle => "while parsing a tag directive"
  | tagDirectiveUri => "while parsing a %TAG directive"
  | node => "while parsing a node"
  | blockNode => "while parsing a block node"
  | flowNode => "while parsing a flow node"
  | blockCollection => "while parsing a block collection"
  | blockMapping => "while parsing a block mapping"
  | flowSequence => "while parsing a flow sequence"
  | flowMapping => "while parsing a flow mapping"

inductive ValueFault where
  /-- A key that is a collection: a sequence or else a mapping; the first key of its mapping or a
  later one. -/
  | keyNotText (isSequence isFirst : Bool)
  /-- An integer that is too great for a number of JSON. -/
  | numberOutOfRange
  /-- A node with a tag of its own, which no JSON has. -/
  | ownTag
  /-- A text that is not what its tag says. -/
  | notOfTag (text expected : String)
  deriving DecidableEq, Repr

def ValueFault.message : ValueFault → String
  | keyNotText isSequence isFirst =>
    "invalid type: " ++ (if isSequence then "sequence" else "map") ++ ", expected a string" ++
      (if isFirst then " key" else "")
  | numberOutOfRange => "JSON number out of range"
  | ownTag => "invalid type: enum, expected any valid JSON value"
  | notOfTag text expected => "invalid value: string " ++ Text.quoted text ++ ", expected " ++ expected

/-- A step from a value to a part of it. -/
inductive PathStep where
  | member (name : String)
  | item (index : Nat)
  /-- The member whose name is told by an alias. -/
  | aliased
  deriving DecidableEq, Repr

/-- The way to a part of a document, the last step first. -/
abbrev ValuePath := List PathStep

def ValuePath.text : ValuePath → String
  | [] => "."
  | [.member name] => name
  | .member name :: parent => text parent ++ "." ++ name
  | .item index :: parent => text parent ++ "[" ++ toString index ++ "]"
  | [.aliased] => "?"
  | .aliased :: parent => text parent ++ ".?"

/-- Why a text is not the value of one document. -/
inductive Error where
  /-- A character that no text may hold, after so many bytes. -/
  | controlCharacter (offset : Nat)
  | malformed (fault : Fault) (place : Position) (setting : Option (Setting × Position))
  | unusable (fault : ValueFault) (path : ValuePath) (place : Position)
  | unknownAnchor (place : Position)
  | tooDeep (place : Position)
  | tooManyAliases
  | severalDocuments
  deriving DecidableEq

/-- The wording of an error. The place where the setting began is told where it adds something. -/
def Error.message : Error → String
  | controlCharacter offset =>
    "control characters are not allowed" ++
      (if offset = 0 then "" else " at position " ++ toString offset)
  | malformed fault place none => fault.message ++ place.phrase
  | malformed fault place (some (setting, start)) =>
    let since := if start.line = place.line ∧ start.column = place.column then "" else start.phrase
    fault.message ++ place.phrase ++ ", " ++ setting.message ++ since
  | unusable fault path place =>
    (if path.isEmpty then "" else path.text ++ ": ") ++ fault.message ++ place.phrase
  | unknownAnchor place => "unknown anchor" ++ place.phrase
  | tooDeep place => "recursion limit exceeded" ++ place.phrase
  | tooManyAliases => "repetition limit exceeded"
  | severalDocuments =>
    "deserializing from YAML containing more than one document is not supported"

end Schemata.Yaml
