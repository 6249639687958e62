import Schemata.Regex.Error
import Schemata.Regex.Expr
import Schemata.Unicode.Property

/-!
# The expression of a syntax tree

* `Flags` : the flags in force at a place of the pattern;
* `SetAst.elaborate` : the set of characters that the inside of a class stands for;
* `Ast.elaborate` : the expression of a tree. Flags set inside a group end with it; all others hold
  for what follows, later alternatives included.

Without the flag `u` characters are bytes. Texts are Unicode, so only ASCII bytes can be asked for.
-/

namespace Schemata.Regex

structure Flags where
  ignoreCase : Bool := false
  multiLine : Bool := false
  dotMatchesNewLine : Bool := false
  swapGreed : Bool := false
  unicode : Bool := true
  crlf : Bool := false

namespace Flags

def turn (flags : Flags) (on : Bool) : Flag → Flags
  | .ignoreCase => { flags with ignoreCase := on }
  | .multiLine => { flags with multiLine := on }
  | .dotMatchesNewLine => { flags with dotMatchesNewLine := on }
  | .swapGreed => { flags with swapGreed := on }
  | .unicode => { flags with unicode := on }
  | .crlf => { flags with crlf := on }
  | .verbose => flags

def apply (flags : Flags) (on : Bool) : List FlagItem → Flags
  | [] => flags
  | .negation :: rest => flags.apply false rest
  | .flag flag :: rest => (flags.turn on flag).apply on rest

end Flags

/-! ## Sets -/

def AsciiClass.set : AsciiClass → CharSet
  | alnum => .ofRanges [(0x30, 0x39), (0x41, 0x5A), (0x61, 0x7A)]
  | alpha => .ofRanges [(0x41, 0x5A), (0x61, 0x7A)]
  | ascii => .ofRanges [(0, 0x7F)]
  | blank => .ofRanges [(0x09, 0x09), (0x20, 0x20)]
  | cntrl => .ofRanges [(0, 0x1F), (0x7F, 0x7F)]
  | digit => .ofRanges [(0x30, 0x39)]
  | graph => .ofRanges [(0x21, 0x7E)]
  | lower => .ofRanges [(0x61, 0x7A)]
  | print => .ofRanges [(0x20, 0x7E)]
  | punct => .ofRanges [(0x21, 0x2F), (0x3A, 0x40), (0x5B, 0x60), (0x7B, 0x7E)]
  | space => .ofRanges [(0x09, 0x0D), (0x20, 0x20)]
  | upper => .ofRanges [(0x41, 0x5A)]
  | word => .ofRanges [(0x30, 0x39), (0x41, 0x5A), (0x5F, 0x5F), (0x61, 0x7A)]
  | xdigit => .ofRanges [(0x30, 0x39), (0x41, 0x46), (0x61, 0x66)]

def PerlClass.set (unicode : Bool) : PerlClass → CharSet
  | digit => if unicode then Unicode.digits else AsciiClass.digit.set
  | space => if unicode then Unicode.blanks else AsciiClass.space.set
  | word => if unicode then Unicode.wordChars else AsciiClass.word.set

/-- A set with the other case of its ASCII letters. -/
def foldAscii (s : CharSet) : CharSet :=
  let upper := s.inter AsciiClass.upper.set
  let lower := s.inter AsciiClass.lower.set
  .ofRanges (s.ranges ++ upper.ranges.map (fun r => (r.1 + 32, r.2 + 32))
    ++ lower.ranges.map (fun r => (r.1 - 32, r.2 - 32)))

namespace Flags

/-- A set with the other cases of its members, where case is ignored. -/
def fold (flags : Flags) (s : CharSet) : CharSet :=
  if flags.ignoreCase then if flags.unicode then Unicode.foldCase s else foldAscii s else s

/-- All other characters, or all other bytes. -/
def compl (flags : Flags) (s : CharSet) : CharSet :=
  if flags.unicode then s.compl else s.complUpTo 255

/-- A set of bytes must be ASCII. -/
def checked (flags : Flags) (span : Span) (s : CharSet) : Except Error CharSet :=
  if flags.unicode || s.isAscii then .ok s else .error (.meaning .invalidUtf8 span)

/-- A set written at a span, folded and then negated. -/
def finish (flags : Flags) (span : Span) (negated : Bool) (s : CharSet) : Except Error CharSet :=
  let folded := flags.fold s
  flags.checked span (if negated then flags.compl folded else folded)

/-- A literal that is a byte must be ASCII. -/
def checkByte (flags : Flags) (l : Literal) : Except Error Unit :=
  if !flags.unicode && l.isByte && 0x7F < l.char.toNat then .error (.meaning .invalidUtf8 l.span)
  else .ok ()

/-- The code of a literal inside a class. -/
def classCode (flags : Flags) (l : Literal) : Except Error Nat := do
  flags.checkByte l
  if !flags.unicode && 0x7F < l.char.toNat then throw (.meaning .unicodeNotAllowed l.span)
  return l.char.toNat

end Flags

def ClassEscape.elaborate (flags : Flags) : ClassEscape → Except Error CharSet
  | perl span kind negated =>
    let set := kind.set flags.unicode
    flags.checked span (if negated then flags.compl set else set)
  | property span query negated =>
    if !flags.unicode then .error (.meaning .unicodeNotAllowed span)
    else
      let set := match query with
        | .named name => Unicode.named name
        | .valued name value => Unicode.valued name value
      match set with
      | .ok set => flags.finish span negated set
      | .error .propertyNotFound => .error (.meaning .propertyNotFound span)
      | .error .valueNotFound => .error (.meaning .propertyValueNotFound span)

def SetOperation.apply (a b : CharSet) : SetOperation → CharSet
  | intersection => a.inter b
  | difference => a.diff b
  | symmetricDifference => a.symmDiff b

mutual

/-- The set that the inside of a class stands for. -/
def SetAst.elaborate (flags : Flags) : SetAst → Except Error CharSet
  | .empty => .ok .empty
  | .literal l => do return .singleton (← flags.classCode l)
  | .range first last => do
    let a ← flags.classCode first
    return .ofRanges [(a, ← flags.classCode last)]
  | .ascii span kind negated => flags.finish span negated kind.set
  | .escape e => e.elaborate flags
  | .bracketed span negated inside => do flags.finish span negated (← inside.elaborate flags)
  | .union _ items => do return .ofRanges (← SetAst.unionRanges flags items)
  | .operation _ op left right => do
    let a ← left.elaborate flags
    let b ← right.elaborate flags
    return op.apply (flags.fold a) (flags.fold b)

/-- The ranges of the sets of a list, one after the other. -/
def SetAst.unionRanges (flags : Flags) : List SetAst → Except Error (List (Nat × Nat))
  | [] => .ok []
  | item :: rest => do
    let set ← item.elaborate flags
    return set.ranges ++ (← SetAst.unionRanges flags rest)

end

/-! ## Expressions -/

/-- A character, or the class of its cases. -/
def Literal.elaborate (flags : Flags) (l : Literal) : Except Error Expr := do
  flags.checkByte l
  let code := l.char.toNat
  let hasCase :=
    if flags.unicode then Unicode.hasCase code
    else AsciiClass.alpha.set.containsCode code
  if flags.ignoreCase && hasCase then
    return .ofSet (!flags.unicode) (flags.fold (.singleton code))
  return .literal [l.char]

def Flags.dotSet (flags : Flags) : CharSet :=
  if flags.dotMatchesNewLine then .full
  else if flags.crlf then .ofRanges [(0, 9), (11, 12), (14, CharSet.maxCode)]
  else .ofRanges [(0, 9), (11, CharSet.maxCode)]

def Assertion.look (flags : Flags) : Assertion → Look
  | startLine => if flags.multiLine then .startLine flags.crlf else .startText
  | endLine => if flags.multiLine then .endLine flags.crlf else .endText
  | startText => .startText
  | endText => .endText
  | wordBoundary => .word .boundary flags.unicode
  | notWordBoundary => .word .notBoundary flags.unicode
  | wordStart => .word .start flags.unicode
  | wordEnd => .word .stop flags.unicode
  | wordStartHalf => .word .startHalf flags.unicode
  | wordEndHalf => .word .stopHalf flags.unicode

mutual

/-- The expression of a tree and the flags after it. -/
def Ast.elaborate (flags : Flags) : Ast → Except Error (Expr × Flags)
  | .empty => .ok (.empty, flags)
  | .flags items => .ok (.empty, flags.apply true items)
  | .literal l => do return (← l.elaborate flags, flags)
  | .dot span =>
    if flags.unicode then .ok (.ofSet false flags.dotSet, flags)
    else .error (.meaning .invalidUtf8 span)
  | .assertion _ kind => .ok (.look (kind.look flags), flags)
  | .escape e => do return (.ofSet (!flags.unicode) (← e.elaborate flags), flags)
  | .bracketed span negated inside => do
    let set ← flags.finish span negated (← inside.elaborate flags)
    return (.ofSet (!flags.unicode) set, flags)
  | .repetition _ min max greedy body => do
    let (e, after) ← body.elaborate flags
    return (.repeated min max (greedy != flags.swapGreed) e, after)
  | .group _ (.capture index) body => do
    let (e, _) ← body.elaborate flags
    return (.capture index e, flags)
  | .group _ (.plain items) body => do
    let (e, _) ← body.elaborate (flags.apply true items)
    return (e, flags)
  | .alternation _ branches => do
    let (es, after) ← Ast.elaborateList flags branches
    return (.alternationOf es, after)
  | .concat _ parts => do
    let (es, after) ← Ast.elaborateList flags parts
    return (.concatOf es, after)

def Ast.elaborateList (flags : Flags) : List Ast → Except Error (List Expr × Flags)
  | [] => .ok ([], flags)
  | ast :: rest => do
    let (e, next) ← ast.elaborate flags
    let (es, after) ← Ast.elaborateList next rest
    return (e :: es, after)

end

end Schemata.Regex
