/-!
# Syntax of regular expressions

* `Place`, `Span` : places in a pattern, with line and column in characters;
* `Ast` : the syntax tree of a pattern, each node with the span it was written at;
* `SetAst` : what stands between the brackets of a class;
* `Flag`, `FlagItem` : the letters of `(?i-s:...)`.
-/

namespace Schemata.Regex

/-- A place in a pattern, before the character with this offset. Lines and columns begin at 1. -/
structure Place where
  offset : Nat
  line : Nat
  column : Nat
  deriving DecidableEq, Inhabited, Repr

/-- The part of a pattern between two places. -/
structure Span where
  start : Place
  stop : Place
  deriving DecidableEq, Inhabited, Repr

namespace Span

/-- The empty span at a place. -/
def point (p : Place) : Span := ⟨p, p⟩

def isOneLine (s : Span) : Bool := s.start.line == s.stop.line

end Span

/-! ## Leaves -/

inductive Flag where
  | ignoreCase | multiLine | dotMatchesNewLine | swapGreed | unicode | crlf | verbose
  deriving DecidableEq, Repr

/-- One item of a flag list: a letter, or the `-` that turns the later letters off. -/
inductive FlagItem where
  | negation
  | flag (flag : Flag)
  deriving DecidableEq, Repr

/-- A character that stands for itself. `isByte` marks the two-digit form `\x41`, which is a byte
where characters are bytes. -/
structure Literal where
  span : Span
  char : Char
  isByte : Bool
  deriving DecidableEq, Inhabited, Repr

/-- What `\d`, `\s` and `\w` stand for. -/
inductive PerlClass where
  | digit | space | word
  deriving DecidableEq, Repr

/-- The classes written `[:alpha:]`. -/
inductive AsciiClass where
  | alnum | alpha | ascii | blank | cntrl | digit | graph | lower | print | punct | space | upper
  | word | xdigit
  deriving DecidableEq, Repr

/-- What stands behind `\p`. -/
inductive PropertyQuery where
  | named (name : String)
  | valued (property value : String)
  deriving DecidableEq, Repr

/-- The conditions a place in the text can be tested for. -/
inductive Assertion where
  | startLine | endLine | startText | endText
  | wordBoundary | notWordBoundary | wordStart | wordEnd | wordStartHalf | wordEndHalf
  deriving DecidableEq, Repr

/-- A class that is one escape. -/
inductive ClassEscape where
  | perl (span : Span) (kind : PerlClass) (negated : Bool)
  | property (span : Span) (query : PropertyQuery) (negated : Bool)
  deriving DecidableEq, Repr

/-! ## Trees -/

def ClassEscape.span : ClassEscape → Span
  | perl span _ _ => span
  | property span _ _ => span

inductive SetOperation where
  | intersection | difference | symmetricDifference
  deriving DecidableEq, Repr

inductive SetAst where
  | empty
  | literal (literal : Literal)
  | range (first last : Literal)
  | ascii (span : Span) (kind : AsciiClass) (negated : Bool)
  | escape (escape : ClassEscape)
  | bracketed (span : Span) (negated : Bool) (inside : SetAst)
  | union (span : Span) (items : List SetAst)
  | operation (span : Span) (operation : SetOperation) (left right : SetAst)
  deriving Inhabited

inductive GroupKind where
  | capture (index : Nat)
  | plain (flags : List FlagItem)
  deriving DecidableEq, Repr

inductive Ast where
  | empty
  | flags (items : List FlagItem)
  | literal (literal : Literal)
  | dot (span : Span)
  | assertion (span : Span) (kind : Assertion)
  | escape (escape : ClassEscape)
  | bracketed (span : Span) (negated : Bool) (inside : SetAst)
  | repetition (span : Span) (min : Nat) (max : Option Nat) (greedy : Bool) (body : Ast)
  | group (span : Span) (kind : GroupKind) (body : Ast)
  | alternation (span : Span) (branches : List Ast)
  | concat (span : Span) (parts : List Ast)
  deriving Inhabited

/-- Where a tree begins, for the trees that can be repeated. -/
def Ast.start? : Ast → Option Place
  | empty | flags _ => none
  | literal l => some l.span.start
  | dot span | assertion span _ | bracketed span _ _ | repetition span _ _ _ _ | group span _ _
  | alternation span _ | concat span _ => some span.start
  | escape e => some e.span.start

end Schemata.Regex
