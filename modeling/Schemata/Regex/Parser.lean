import Schemata.Regex.Error
import Schemata.Text.Blank
import Schemata.Unicode.Property

/-!
# Reading a pattern

* `Scan` : the characters left and the place before them, with what the reading depends on: whether
  blanks are skipped, and the groups opened so far;
* `escape`, `setClass`, `group`, `counted` : the forms of the syntax;
* `Ast.parse` : a whole pattern, groups and alternatives being kept on a stack of `Frame`s;
* `Ast.checkNesting` : the limit on nesting.

Every loop runs at most once for each character left, so it is bounded by their number.
-/

namespace Schemata.Regex

open Schemata.Text (isBlank)

/-- The state of a reading. -/
structure Scan where
  rest : List Char
  place : Place
  verbose : Bool
  captures : Nat
  names : List (String × Span)

abbrev Parser := StateT Scan (Except SyntaxError)

namespace Parser

/-! ## Moving -/

def advance (p : Place) (c : Char) : Place :=
  if c = '\n' then ⟨p.offset + 1, p.line + 1, 1⟩ else ⟨p.offset + 1, p.line, p.column + 1⟩

def fail {α : Type} (fault : SyntaxFault) (span : Span) : Parser α := throw ⟨fault, span, none⟩

def place : Parser Place := return (← get).place

def current? : Parser (Option Char) := return (← get).rest.head?

def atEnd : Parser Bool := return (← get).rest.isEmpty

def left : Parser Nat := return (← get).rest.length

/-- The empty span at the place. -/
def here : Parser Span := return .point (← place)

/-- The span of the character at the place. -/
def currentSpan : Parser Span := do
  let s ← get
  return ⟨s.place, match s.rest with | c :: _ => advance s.place c | [] => s.place⟩

/-- Move past one character; true if another one follows. -/
def bump : Parser Bool := do
  let s ← get
  match s.rest with
  | [] => return false
  | c :: rest =>
    set { s with rest := rest, place := advance s.place c }
    return !rest.isEmpty

/-- Move past a text if it comes next. -/
def bumpIf (text : String) : Parser Bool := do
  let s ← get
  if text.toList.isPrefixOf s.rest then
    set { s with
      rest := s.rest.drop text.length
      place := text.toList.foldl advance s.place }
    return true
  return false

/-- The characters after blanks and comments; a comment runs from `#` to the end of its line. -/
def afterSpace (inComment : Bool) (p : Place) : List Char → List Char × Place
  | [] => ([], p)
  | c :: rest =>
    if inComment then afterSpace (c != '\n') (advance p c) rest
    else if isBlank c then afterSpace false (advance p c) rest
    else if c = '#' then afterSpace true (advance p c) rest
    else (c :: rest, p)

/-- Skip blanks and comments where they do not count. -/
def skipSpace : Parser Unit := do
  let s ← get
  if s.verbose then
    let (rest, p) := afterSpace false s.place s.rest
    set { s with rest := rest, place := p }

/-- Move past one character and blanks; true if another character follows. -/
def bumpSpace : Parser Bool := do
  if !(← bump) then return false
  skipSpace
  return !(← atEnd)

/-- The first character after the current one that counts where blanks are skipped. In a comment it
is the first one that is not blank. -/
def firstCounting (inComment : Bool) : List Char → Option Char
  | [] => none
  | c :: rest =>
    if isBlank c then firstCounting inComment rest
    else if !inComment && c = '#' then firstCounting true rest
    else some c

/-- The character after the current one, blanks skipped where they do not count. -/
def peekSpace? : Parser (Option Char) := do
  let s ← get
  let rest := s.rest.drop 1
  if s.verbose then return (firstCounting false rest).or rest.head? else return rest.head?

/-! ## Escapes -/

inductive Primitive where
  | literal (literal : Literal)
  | assertion (span : Span) (kind : Assertion)
  | dot (span : Span)
  | escape (escape : ClassEscape)

def Primitive.span : Primitive → Span
  | literal l => l.span
  | assertion s _ => s
  | dot s => s
  | escape e => e.span

def Primitive.toAst : Primitive → Ast
  | literal l => .literal l
  | assertion s kind => .assertion s kind
  | dot s => .dot s
  | escape e => .escape e

def isHex (c : Char) : Bool :=
  c.isDigit || ('a' ≤ c && c ≤ 'f') || ('A' ≤ c && c ≤ 'F')

def hexValue (c : Char) : Nat :=
  if c.isDigit then c.toNat - 48 else if c.toNat < 97 then c.toNat - 55 else c.toNat - 87

/-- The character with a code, if there is one. -/
def charOf? (code : Nat) : Option Char :=
  if code < 0xD800 ∨ (0xDFFF < code ∧ code ≤ 0x10FFFF) then some (Char.ofNat code) else none

/-- The character of hexadecimal digits; more than 32 bits are no character. -/
def hexChar? (digits : List Char) : Option Char :=
  charOf? (digits.foldl (fun n c => Nat.min (16 * n + hexValue c) 0x100000000) 0)

/-- A fixed number of hexadecimal digits, the escape having begun at `start`. -/
def hexDigits (start : Place) (count : Nat) : Parser Literal := do
  let first ← place
  let mut digits : List Char := []
  for i in [0:count] do
    if i > 0 then
      if !(← bumpSpace) then fail .escapeUnexpectedEnd (← here)
    let c := (← current?).getD ' '
    if !isHex c then fail .escapeHexInvalidDigit (← currentSpan)
    digits := c :: digits
  let _ ← bumpSpace
  let stop ← place
  match hexChar? digits.reverse with
  | some c => return ⟨⟨start, stop⟩, c, count == 2⟩
  | none => fail .escapeHexInvalid ⟨first, stop⟩

/-- Hexadecimal digits in braces, the escape having begun at `start`. -/
def hexBraces (start : Place) : Parser Literal := do
  let brace ← place
  let first := (← currentSpan).stop
  let mut digits : List Char := []
  for _ in [0:(← left) + 1] do
    if !(← bumpSpace) then break
    let c := (← current?).getD '\x7d'
    if c = '\x7d' then break
    if !isHex c then fail .escapeHexInvalidDigit (← currentSpan)
    digits := c :: digits
  if ← atEnd then fail .escapeUnexpectedEnd ⟨brace, ← place⟩
  let last ← place
  let _ ← bumpSpace
  if digits.isEmpty then fail .escapeHexEmpty ⟨brace, ← place⟩
  match hexChar? digits.reverse with
  | some c => return ⟨⟨start, ← place⟩, c, false⟩
  | none => fail .escapeHexInvalid ⟨first, last⟩

/-- What follows `\x`, `\u` or `\U`, at the letter. -/
def hex (start : Place) : Parser Literal := do
  let count := match ← current? with | some 'x' => 2 | some 'u' => 4 | _ => 8
  if !(← bumpSpace) then fail .escapeUnexpectedEnd (← here)
  if (← current?) = some '\x7b' then hexBraces start else hexDigits start count

/-- The text before and after the first occurrence of a separator. -/
def splitAt? (separator : List Char) : List Char → Option (List Char × List Char)
  | [] => none
  | c :: rest =>
    if separator.isPrefixOf (c :: rest) then some ([], (c :: rest).drop separator.length)
    else (splitAt? separator rest).map fun (a, b) => (c :: a, b)

/-- The query behind `\p{...}`, and whether it is a negation of its own. -/
def queryOf (name : List Char) : PropertyQuery × Bool :=
  match splitAt? ['!', '='] name with
  | some (a, b) => (.valued (String.ofList a) (String.ofList b), true)
  | none =>
    match (splitAt? [':'] name).or (splitAt? ['='] name) with
    | some (a, b) => (.valued (String.ofList a) (String.ofList b), false)
    | none => (.named (String.ofList name), false)

/-- What follows `\p` or `\P`, at the letter. -/
def property (start : Place) : Parser ClassEscape := do
  let negated := (← current?) = some 'P'
  if !(← bumpSpace) then fail .escapeUnexpectedEnd (← here)
  if (← current?) = some '\x7b' then
    let mut name : List Char := []
    for _ in [0:(← left) + 1] do
      if !(← bumpSpace) then break
      let c := (← current?).getD '\x7d'
      if c = '\x7d' then break
      name := c :: name
    if ← atEnd then fail .escapeUnexpectedEnd (← here)
    let _ ← bump
    let (query, unequal) := queryOf name.reverse
    return .property ⟨start, ← place⟩ query (negated != unequal)
  else
    let c := (← current?).getD ' '
    if c = '\\' then fail .unicodeClassInvalid (← currentSpan)
    let _ ← bumpSpace
    return .property ⟨start, ← place⟩ (.named c.toString) negated

/-- The characters with a meaning in patterns; each can be escaped. -/
def isMeta (c : Char) : Bool := "\\.+*?()|[]\x7b\x7d^$#&-~".contains c

/-- The characters that stand for themselves after a backslash: ASCII other than letters, digits
and angle brackets. -/
def isEscapable (c : Char) : Bool :=
  isMeta c || (c.toNat < 128 && !c.isAlphanum && c != '<' && c != '>')

/-- The word boundary in braces after `\b`, which begins at `start`. A brace that begins a count is
left alone. -/
def boundary? (start : Place) : Parser (Option Assertion) := do
  let isNameChar (c : Char) : Bool := c.isAlpha || c = '-'
  let brace ← get
  if !(← bumpSpace) then fail .wordBoundaryOrCountUnexpectedEnd ⟨start, ← place⟩
  let first ← place
  if !(((← current?).map isNameChar).getD false) then
    set brace
    return none
  let mut name : List Char := []
  for _ in [0:(← left) + 1] do
    match ← current? with
    | some c =>
      if !isNameChar c then break
      name := c :: name
      let _ ← bumpSpace
    | none => break
  if (← current?) ≠ some '\x7d' then fail .wordBoundaryUnclosed ⟨brace.place, ← place⟩
  let last ← place
  let _ ← bump
  match String.ofList name.reverse with
  | "start" => return some .wordStart
  | "end" => return some .wordEnd
  | "start-half" => return some .wordStartHalf
  | "end-half" => return some .wordEndHalf
  | _ => fail .wordBoundaryUnrecognized ⟨first, last⟩

/-- An escape, at its backslash. -/
def escape : Parser Primitive := do
  let start ← place
  if !(← bump) then fail .escapeUnexpectedEnd ⟨start, ← place⟩
  let c := (← current?).getD ' '
  if c.isDigit then fail .backreference ⟨start, (← currentSpan).stop⟩
  if c = 'x' || c = 'u' || c = 'U' then return .literal (← hex start)
  if c = 'p' || c = 'P' then return .escape (← property start)
  let _ ← bump
  let span : Span := ⟨start, ← place⟩
  let char (c : Char) : Parser Primitive := return .literal ⟨span, c, false⟩
  let perl (kind : PerlClass) (negated : Bool) : Parser Primitive :=
    return .escape (.perl span kind negated)
  let test (kind : Assertion) : Parser Primitive := return .assertion span kind
  if isEscapable c then return .literal ⟨span, c, false⟩
  match c with
  | 'd' => perl .digit false
  | 'D' => perl .digit true
  | 's' => perl .space false
  | 'S' => perl .space true
  | 'w' => perl .word false
  | 'W' => perl .word true
  | 'a' => char '\x07'
  | 'f' => char '\x0c'
  | 't' => char '\t'
  | 'n' => char '\n'
  | 'r' => char '\r'
  | 'v' => char '\x0b'
  | 'A' => test .startText
  | 'z' => test .endText
  | 'b' =>
    if (← current?) = some '\x7b' then
      match ← boundary? start with
      | some kind => return .assertion ⟨start, ← place⟩ kind
      | none => test .wordBoundary
    else test .wordBoundary
  | 'B' => test .notWordBoundary
  | '<' => test .wordStart
  | '>' => test .wordEnd
  | _ => fail .escapeUnrecognized span

/-! ## Classes -/

/-- Items of a class read so far, the last one first, and the part of the pattern they cover. -/
structure Items where
  span : Span
  items : List SetAst

namespace Items

def push (u : Items) (span : Span) (item : SetAst) : Items :=
  ⟨⟨if u.items.isEmpty then span.start else u.span.start, span.stop⟩, item :: u.items⟩

def toAst (u : Items) : SetAst :=
  match u.items with
  | [] => .empty
  | [item] => item
  | items => .union u.span items.reverse

end Items

/-- An open bracket or the left side of an operation. -/
inductive ClassFrame where
  | bracket (outer : Items) (span : Span) (negated : Bool)
  | operation (operation : SetOperation) (left : SetAst) (span : Span)

def asciiClass? : String → Option AsciiClass
  | "alnum" => some .alnum
  | "alpha" => some .alpha
  | "ascii" => some .ascii
  | "blank" => some .blank
  | "cntrl" => some .cntrl
  | "digit" => some .digit
  | "graph" => some .graph
  | "lower" => some .lower
  | "print" => some .print
  | "punct" => some .punct
  | "space" => some .space
  | "upper" => some .upper
  | "word" => some .word
  | "xdigit" => some .xdigit
  | _ => none

/-- A class `[:name:]`, at its bracket. Where there is none, nothing is read. -/
def namedClass? : Parser (Option (SetAst × Span)) := do
  let s ← get
  match s.rest with
  | '[' :: ':' :: rest =>
    let (negated, rest) := match rest with | '^' :: r => (true, r) | r => (false, r)
    let name := rest.takeWhile (· ≠ ':')
    match rest.drop name.length, asciiClass? (String.ofList name) with
    | ':' :: ']' :: after, some kind =>
      let read := s.rest.take (s.rest.length - after.length)
      let stop := read.foldl advance s.place
      set { s with rest := after, place := stop }
      let span : Span := ⟨s.place, stop⟩
      return some (.ascii span kind negated, span)
    | _, _ => return none
  | _ => return none

/-- An opening bracket with what can only stand right after it: `^`, hyphens, a first `]`. -/
def openBracket : Parser (Span × Bool × Items) := do
  let start ← place
  if !(← bumpSpace) then fail .classUnclosed ⟨start, ← place⟩
  let negated := (← current?) = some '^'
  if negated then
    if !(← bumpSpace) then fail .classUnclosed ⟨start, ← place⟩
  let mut items : Items := ⟨← here, []⟩
  for _ in [0:(← left) + 1] do
    if (← current?) ≠ some '-' then break
    let span ← currentSpan
    items := items.push span (.literal ⟨span, '-', false⟩)
    if !(← bumpSpace) then fail .classUnclosed (.point start)
  if items.items.isEmpty && (← current?) = some ']' then
    let span ← currentSpan
    items := items.push span (.literal ⟨span, ']', false⟩)
    if !(← bumpSpace) then fail .classUnclosed ⟨start, ← place⟩
  return (⟨start, ← place⟩, negated, items)

def failUnclosed {α : Type} (stack : List ClassFrame) : Parser α := do
  for frame in stack do
    match frame with
    | .bracket _ span _ => fail .classUnclosed span
    | .operation .. => pure ()
  fail .classUnclosed (← here)

/-- A character or an escape inside a class. -/
def setPrimitive : Parser Primitive := do
  match ← current? with
  | some '\\' => escape
  | some c =>
    let span ← currentSpan
    let _ ← bump
    return .literal ⟨span, c, false⟩
  | none => fail .classUnclosed (← here)

def setItem (p : Primitive) : Parser SetAst :=
  match p with
  | .literal l => return .literal l
  | .escape e => return .escape e
  | p => fail .classEscapeInvalid p.span

def setLiteral (p : Primitive) : Parser Literal :=
  match p with
  | .literal l => return l
  | p => fail .classRangeLiteral p.span

/-- An item of a class or a range. -/
def setRange (stack : List ClassFrame) : Parser (SetAst × Span) := do
  let first ← setPrimitive
  skipSpace
  if ← atEnd then failUnclosed stack
  let next ← peekSpace?
  if (← current?) ≠ some '-' || next = some ']' || next = some '-' then
    return (← setItem first, first.span)
  if !(← bumpSpace) then failUnclosed stack
  let last ← setPrimitive
  let span : Span := ⟨first.span.start, last.span.stop⟩
  let a ← setLiteral first
  let b ← setLiteral last
  if b.char < a.char then fail .classRangeInvalid span
  return (.range a b, span)

/-- Close the operation that waits for its right side, if one does. -/
def closeOperation (stack : List ClassFrame) (right : SetAst) (span : Span) :
    List ClassFrame × SetAst × Span :=
  match stack with
  | .operation op left leftSpan :: stack =>
    let whole : Span := ⟨leftSpan.start, span.stop⟩
    (stack, .operation whole op left right, whole)
  | stack => (stack, right, span)

/-- The operation whose sign comes next. -/
def operation? : Parser (Option SetOperation) := do
  if ← bumpIf "&&" then return some .intersection
  if ← bumpIf "--" then return some .difference
  if ← bumpIf "~~" then return some .symmetricDifference
  return none

/-- A bracketed class, at its bracket. -/
def setClass : Parser Ast := do
  let mut stack : List ClassFrame := []
  let mut items : Items := ⟨← here, []⟩
  for _ in [0:(← left) + 1] do
    skipSpace
    if ← atEnd then failUnclosed stack
    match ← current? with
    | some '[' =>
      let named ← if stack.isEmpty then pure none else namedClass?
      match named with
      | some (item, span) => items := items.push span item
      | none =>
        let (span, negated, inner) ← openBracket
        stack := .bracket items span negated :: stack
        items := inner
    | some ']' =>
      let (rest, inside, _) := closeOperation stack items.toAst items.span
      match rest with
      | .bracket outer span negated :: rest =>
        let _ ← bump
        let span : Span := ⟨span.start, ← place⟩
        if rest.isEmpty then return .bracketed span negated inside
        stack := rest
        items := outer.push span (.bracketed span negated inside)
      | _ => fail .classUnclosed (← here)
    | _ =>
      match ← operation? with
      | some op =>
        let (rest, left, span) := closeOperation stack items.toAst items.span
        stack := .operation op left span :: rest
        items := ⟨← here, []⟩
      | none =>
        let (item, span) ← setRange stack
        items := items.push span item
  failUnclosed stack

/-! ## Groups -/

/-- The first characters of a group name. -/
def isNameStart (c : Char) : Bool :=
  c = '_' || ((Unicode.setUnder? Unicode.binaryProperties "Alphabetic").getD .empty).contains c

/-- The later characters of a group name. -/
def isNameChar (c : Char) : Bool :=
  isNameStart c || c = '.' || c = '[' || c = ']'
    || (Unicode.categorySet ["Nd", "Nl", "No"]).contains c

def nextCapture (span : Span) : Parser Nat := do
  let s ← get
  if s.captures + 1 = 0x100000000 then fail .captureLimitExceeded span
  set { s with captures := s.captures + 1 }
  return s.captures + 1

/-- The name of a group, after its opening angle bracket. -/
def groupName : Parser Unit := do
  if ← atEnd then fail .groupNameUnexpectedEnd (← here)
  let start ← place
  let mut name : List Char := []
  for _ in [0:(← left) + 1] do
    match ← current? with
    | some c =>
      if c = '>' then break
      if !(if name.isEmpty then isNameStart c else isNameChar c) then
        fail .groupNameInvalid (← currentSpan)
      name := c :: name
      if !(← bump) then break
    | none => break
  let stop ← place
  if ← atEnd then fail .groupNameUnexpectedEnd (← here)
  let _ ← bump
  if name.isEmpty then fail .groupNameEmpty (.point start)
  let text := String.ofList name.reverse
  let s ← get
  match s.names.lookup text with
  | some earlier => throw ⟨.groupNameDuplicate, ⟨start, stop⟩, some earlier⟩
  | none => set { s with names := (text, ⟨start, stop⟩) :: s.names }

def flag? : Char → Option Flag
  | 'i' => some .ignoreCase
  | 'm' => some .multiLine
  | 's' => some .dotMatchesNewLine
  | 'U' => some .swapGreed
  | 'u' => some .unicode
  | 'R' => some .crlf
  | 'x' => some .verbose
  | _ => none

/-- Flags up to the `:` or `)` that ends them, with the span of each. -/
def flagItems : Parser (List FlagItem) := do
  let mut items : List (FlagItem × Span) := []
  let mut dangling : Option Span := none
  for _ in [0:(← left) + 1] do
    let span ← currentSpan
    match ← current? with
    | none => break
    | some ':' => break
    | some ')' => break
    | some c =>
      let item ← (match c, flag? c with
        | '-', _ => pure FlagItem.negation
        | _, some f => pure (FlagItem.flag f)
        | _, none => fail .flagUnrecognized span)
      dangling := if c = '-' then some span else none
      match items.lookup item with
      | some earlier =>
        throw ⟨if c = '-' then .flagRepeatedNegation else .flagDuplicate, span, some earlier⟩
      | none => items := items ++ [(item, span)]
      if !(← bump) then fail .flagUnexpectedEnd (← here)
  match dangling with
  | some span => fail .flagDanglingNegation span
  | none => return items.map Prod.fst

/-- The state of a flag in a list of flags, if the list sets it. -/
def flagState (flag : Flag) (items : List FlagItem) : Option Bool :=
  let on := items.takeWhile (· ≠ .negation)
  if on.contains (.flag flag) then some true
  else if items.contains (.flag flag) then some false
  else none

/-- What an opening parenthesis begins. -/
inductive Opening where
  | flags (items : List FlagItem)
  | group (span : Span) (kind : GroupKind)

/-- An opening parenthesis and all that belongs to it. -/
def opening : Parser Opening := do
  let span ← currentSpan
  let _ ← bump
  skipSpace
  for sign in ["?=", "?!", "?<=", "?<!"] do
    if ← bumpIf sign then fail .lookAround ⟨span.start, ← place⟩
  let inner ← here
  let isNamed ← (do if ← bumpIf "?P<" then pure true else bumpIf "?<")
  if isNamed then
    let index ← nextCapture span
    groupName
    return .group span (.capture index)
  else if ← bumpIf "?" then
    if ← atEnd then fail .groupUnclosed span
    let items ← flagItems
    let last ← current?
    let _ ← bump
    if last = some ')' then
      if items.isEmpty then fail .repetitionMissing inner
      return .flags items
    return .group span (.plain items)
  else
    return .group span (.capture (← nextCapture span))

/-! ## Repetitions -/

/-- The decimal at the place, and what is wrong with it. -/
def decimal : Parser (Except SyntaxError Nat) := do
  for _ in [0:(← left) + 1] do
    match ← current? with
    | some c => if isBlank c then let _ ← bump else break
    | none => break
  let start ← place
  let mut digits : List Char := []
  for _ in [0:(← left) + 1] do
    match ← current? with
    | some c =>
      if !c.isDigit then break
      digits := c :: digits
      let _ ← bumpSpace
    | none => break
  let span : Span := ⟨start, ← place⟩
  for _ in [0:(← left) + 1] do
    match ← current? with
    | some c => if isBlank c then let _ ← bumpSpace else break
    | none => break
  if digits.isEmpty then return .error ⟨.countDecimalEmpty, span, none⟩
  let n := digits.reverse.foldl (fun n c => Nat.min (10 * n + (c.toNat - 48)) 0x100000000) 0
  if n < 0x100000000 then return .ok n else return .error ⟨.decimalInvalid, span, none⟩

/-- The tree that an operator repeats. -/
def operand (parts : List Ast) : Parser (Ast × List Ast) := do
  match parts with
  | [] => fail .repetitionMissing (← here)
  | .empty :: _ => fail .repetitionMissing (← here)
  | .flags _ :: _ => fail .repetitionMissing (← here)
  | ast :: rest => return (ast, rest)

/-- A repetition that ends at the place; `?` after its operator makes it lazy. -/
def repeated (ast : Ast) (min : Nat) (max : Option Nat) (greedy : Bool) : Parser Ast := do
  let stop ← place
  return .repetition ⟨ast.start?.getD stop, stop⟩ min max greedy ast

/-- One of `?`, `*` and `+`, at the place. -/
def uncounted (parts : List Ast) (min : Nat) (max : Option Nat) : Parser (List Ast) := do
  let (ast, rest) ← operand parts
  let more ← bump
  let lazy := more && (← current?) = some '?'
  if lazy then let _ ← bump
  return (← repeated ast min max !lazy) :: rest

/-- A count in braces, at its brace. -/
def counted (parts : List Ast) : Parser (List Ast) := do
  let start ← place
  let unclosed : Parser Unit := do fail .countUnclosed ⟨start, ← place⟩
  let (ast, rest) ← operand parts
  if !(← bumpSpace) then unclosed
  let first ← decimal
  if ← atEnd then unclosed
  let comma := (← current?) = some ','
  if comma then
    if !(← bumpSpace) then unclosed
  let min ← liftExcept first
  let max ← (do
    if !comma then return some min
    if (← current?) = some '\x7d' then return none
    return some (← liftExcept (← decimal)))
  if (← current?) ≠ some '\x7d' then unclosed
  let more ← bumpSpace
  let lazy := more && (← current?) = some '?'
  if lazy then let _ ← bump
  match max with
  | some n => if n < min then fail .countInvalid ⟨start, ← place⟩
  | none => pure ()
  return (← repeated ast min max !lazy) :: rest
where
  liftExcept (r : Except SyntaxError Nat) : Parser Nat :=
    match r with
    | .ok n => return n
    | .error e => throw e

/-! ## Sequences and alternatives -/

/-- Parts of a sequence read so far, the last one first, and where the sequence began. -/
structure Sequence where
  start : Place
  parts : List Ast

def Sequence.toAst (s : Sequence) (stop : Place) : Ast :=
  match s.parts with
  | [] => .empty
  | [ast] => ast
  | parts => .concat ⟨s.start, stop⟩ parts.reverse

/-- What a sequence stands in: an open group, or alternatives before it. -/
inductive Frame where
  | group (outer : Sequence) (span : Span) (kind : GroupKind) (verbose : Bool)
  | alternation (start : Place) (branches : List Ast)

/-- Close the alternatives before a sequence, if there are any. -/
def closeAlternation (stack : List Frame) (last : Ast) (stop : Place) : List Frame × Ast :=
  match stack with
  | .alternation start branches :: stack =>
    (stack, .alternation ⟨start, stop⟩ (last :: branches).reverse)
  | stack => (stack, last)

/-- A `|` after a sequence. -/
def pushBranch (stack : List Frame) (s : Sequence) (stop : Place) : List Frame :=
  match stack with
  | .alternation start branches :: stack => .alternation start (s.toAst stop :: branches) :: stack
  | stack => .alternation s.start [s.toAst stop] :: stack

def setVerbose (verbose : Bool) : Parser Unit := modify fun s => { s with verbose := verbose }

/-- An opening parenthesis after a sequence. -/
def openGroup (stack : List Frame) (s : Sequence) : Parser (List Frame × Sequence) := do
  match ← opening with
  | .flags items =>
    match flagState .verbose items with
    | some verbose => setVerbose verbose
    | none => pure ()
    return (stack, { s with parts := .flags items :: s.parts })
  | .group span kind =>
    let verbose := (← get).verbose
    match kind with
    | .plain items => setVerbose ((flagState .verbose items).getD verbose)
    | .capture _ => pure ()
    return (.group s span kind verbose :: stack, ⟨← place, []⟩)

/-- A closing parenthesis after a sequence. -/
def closeGroup (stack : List Frame) (s : Sequence) : Parser (List Frame × Sequence) := do
  let stop ← place
  let (rest, body) := closeAlternation stack (s.toAst stop) stop
  match rest with
  | .group outer span kind verbose :: rest =>
    setVerbose verbose
    let _ ← bump
    let group := Ast.group ⟨span.start, ← place⟩ kind body
    return (rest, { outer with parts := group :: outer.parts })
  | _ => fail .groupUnopened (← currentSpan)

def pattern : Parser Ast := do
  let mut stack : List Frame := []
  let mut s : Sequence := ⟨← place, []⟩
  for _ in [0:(← left) + 1] do
    skipSpace
    match ← current? with
    | none => break
    | some '(' => (stack, s) ← openGroup stack s
    | some ')' => (stack, s) ← closeGroup stack s
    | some '|' =>
      stack := pushBranch stack s (← place)
      let _ ← bump
      s := ⟨← place, []⟩
    | some '[' => s := { s with parts := (← setClass) :: s.parts }
    | some '?' => s := { s with parts := ← uncounted s.parts 0 (some 1) }
    | some '*' => s := { s with parts := ← uncounted s.parts 0 none }
    | some '+' => s := { s with parts := ← uncounted s.parts 1 none }
    | some '\x7b' => s := { s with parts := ← counted s.parts }
    | some '\\' => s := { s with parts := (← escape).toAst :: s.parts }
    | some c =>
      let span ← currentSpan
      let _ ← bump
      let ast := match c with
        | '.' => .dot span
        | '^' => .assertion span .startLine
        | '$' => .assertion span .endLine
        | c => .literal ⟨span, c, false⟩
      s := { s with parts := ast :: s.parts }
  let stop ← place
  let (rest, ast) := closeAlternation stack (s.toAst stop) stop
  match rest with
  | .group _ span _ _ :: _ => fail .groupUnclosed span
  | _ => return ast

end Parser

/-! ## Nesting -/

mutual

/-- The first span inside a class that nests too deep, `depth` being the depth around it. -/
def SetAst.tooDeep? (depth : Nat) : SetAst → Option Span
  | .empty | .literal _ | .range _ _ | .ascii _ _ _ | .escape _ => none
  | .bracketed span _ inside =>
    if nestLimit ≤ depth then some span else inside.tooDeep? (depth + 1)
  | .union span items => if nestLimit ≤ depth then some span else SetAst.anyTooDeep? (depth + 1) items
  | .operation span _ left right =>
    if nestLimit ≤ depth then some span
    else (left.tooDeep? (depth + 1)).or (right.tooDeep? (depth + 1))

def SetAst.anyTooDeep? (depth : Nat) : List SetAst → Option Span
  | [] => none
  | item :: rest => (item.tooDeep? depth).or (SetAst.anyTooDeep? depth rest)

end

mutual

/-- The first span that nests too deep, `depth` being the depth around it. -/
def Ast.tooDeep? (depth : Nat) : Ast → Option Span
  | .empty | .flags _ | .literal _ | .dot _ | .assertion _ _ | .escape _ => none
  | .bracketed span _ inside =>
    if nestLimit ≤ depth then some span else inside.tooDeep? (depth + 1)
  | .repetition span _ _ _ body =>
    if nestLimit ≤ depth then some span else body.tooDeep? (depth + 1)
  | .group span _ body => if nestLimit ≤ depth then some span else body.tooDeep? (depth + 1)
  | .alternation span branches =>
    if nestLimit ≤ depth then some span else Ast.anyTooDeep? (depth + 1) branches
  | .concat span parts =>
    if nestLimit ≤ depth then some span else Ast.anyTooDeep? (depth + 1) parts

def Ast.anyTooDeep? (depth : Nat) : List Ast → Option Span
  | [] => none
  | ast :: rest => (ast.tooDeep? depth).or (Ast.anyTooDeep? depth rest)

end

def Ast.parse (pattern : String) : Except SyntaxError Ast :=
  match (Parser.pattern).run ⟨pattern.toList, ⟨0, 1, 1⟩, false, 0, []⟩ with
  | .error e => .error e
  | .ok (ast, _) =>
    match ast.tooDeep? 0 with
    | some span => .error ⟨.nestLimitExceeded, span, none⟩
    | none => .ok ast

end Schemata.Regex
