import Schemata.Regex.Syntax

/-!
# Errors of regular expressions

* `SyntaxFault` : what is wrong with the writing of a pattern; `MeaningFault` : what is wrong with a
  well-written one;
* `Notation.draw` : the pattern with carets under the spans at fault;
* `Error.message` : the whole text.
-/

namespace Schemata.Regex

/-- The deepest nesting of groups, classes and operators. -/
def nestLimit : Nat := 250

/-- The size in bytes that the automaton of a pattern may have. -/
def sizeLimit : Nat := 10485760

/-- What is wrong with the writing of a pattern. -/
inductive SyntaxFault where
  | captureLimitExceeded
  | classEscapeInvalid | classRangeInvalid | classRangeLiteral | classUnclosed
  | decimalEmpty | decimalInvalid
  | escapeHexEmpty | escapeHexInvalid | escapeHexInvalidDigit
  | escapeUnexpectedEnd | escapeUnrecognized
  | flagDanglingNegation | flagDuplicate | flagRepeatedNegation | flagUnexpectedEnd
  | flagUnrecognized
  | groupNameDuplicate | groupNameEmpty | groupNameInvalid | groupNameUnexpectedEnd
  | groupUnclosed | groupUnopened
  | nestLimitExceeded
  | countInvalid | countDecimalEmpty | countUnclosed | repetitionMissing
  | wordBoundaryUnclosed | wordBoundaryUnrecognized | wordBoundaryOrCountUnexpectedEnd
  | unicodeClassInvalid
  | backreference | lookAround
  deriving DecidableEq, Repr

/-- What is wrong with a well-written pattern. -/
inductive MeaningFault where
  | unicodeNotAllowed | invalidUtf8 | propertyNotFound | propertyValueNotFound
  deriving DecidableEq, Repr

def SyntaxFault.message : SyntaxFault → String
  | captureLimitExceeded => "exceeded the maximum number of capturing groups (4294967295)"
  | classEscapeInvalid => "invalid escape sequence found in character class"
  | classRangeInvalid => "invalid character class range, the start must be <= the end"
  | classRangeLiteral => "invalid range boundary, must be a literal"
  | classUnclosed => "unclosed character class"
  | decimalEmpty => "decimal literal empty"
  | decimalInvalid => "decimal literal invalid"
  | escapeHexEmpty => "hexadecimal literal empty"
  | escapeHexInvalid => "hexadecimal literal is not a Unicode scalar value"
  | escapeHexInvalidDigit => "invalid hexadecimal digit"
  | escapeUnexpectedEnd => "incomplete escape sequence, reached end of pattern prematurely"
  | escapeUnrecognized => "unrecognized escape sequence"
  | flagDanglingNegation => "dangling flag negation operator"
  | flagDuplicate => "duplicate flag"
  | flagRepeatedNegation => "flag negation operator repeated"
  | flagUnexpectedEnd => "expected flag but got end of regex"
  | flagUnrecognized => "unrecognized flag"
  | groupNameDuplicate => "duplicate capture group name"
  | groupNameEmpty => "empty capture group name"
  | groupNameInvalid => "invalid capture group character"
  | groupNameUnexpectedEnd => "unclosed capture group name"
  | groupUnclosed => "unclosed group"
  | groupUnopened => "unopened group"
  | nestLimitExceeded =>
    "exceed the maximum number of nested parentheses/brackets (" ++ toString nestLimit ++ ")"
  | countInvalid => "invalid repetition count range, the start must be <= the end"
  | countDecimalEmpty => "repetition quantifier expects a valid decimal"
  | countUnclosed => "unclosed counted repetition"
  | repetitionMissing => "repetition operator missing expression"
  | wordBoundaryUnclosed =>
    "special word boundary assertion is either unclosed or contains an invalid character"
  | wordBoundaryUnrecognized =>
    "unrecognized special word boundary assertion, " ++
      "valid choices are: start, end, start-half or end-half"
  | wordBoundaryOrCountUnexpectedEnd =>
    "found either the beginning of a special word boundary or a bounded repetition " ++
      "on a \\b with an opening brace, but no closing brace"
  | unicodeClassInvalid => "invalid Unicode character class"
  | backreference => "backreferences are not supported"
  | lookAround => "look-around, including look-ahead and look-behind, is not supported"

def MeaningFault.message : MeaningFault → String
  | unicodeNotAllowed => "Unicode not allowed here"
  | invalidUtf8 => "pattern can match invalid UTF-8"
  | propertyNotFound => "Unicode property not found"
  | propertyValueNotFound => "Unicode property value not found"

/-- A fault in the writing, where it is, and the earlier span it conflicts with, if any. -/
structure SyntaxError where
  fault : SyntaxFault
  span : Span
  other : Option Span
  deriving DecidableEq, Repr

inductive Error where
  | writing (error : SyntaxError)
  | meaning (fault : MeaningFault) (span : Span)
  | tooLarge
  deriving DecidableEq, Repr

/-! ## Drawing -/

namespace Notation

/-- The lines of a text; a line ends with `\n` or `\r\n`, and a last line may go without. -/
def lines (text : String) : List String :=
  let pieces := text.splitOn "\n"
  let last := pieces.getLastD ""
  let ended := pieces.dropLast.map fun line =>
    if line.endsWith "\r" then (line.dropEnd 1).toString else line
  if last.isEmpty then ended else ended ++ [last]

/-- Spans that begin earlier come first; of two that begin together, the shorter one. -/
def precedes (a b : Span) : Bool :=
  a.start.offset < b.start.offset || (a.start.offset == b.start.offset && a.stop.offset ≤ b.stop.offset)

/-- Carets under spans of one line, from left to right, `column` columns being drawn already; an
empty span takes one caret. -/
def carets (column : Nat) : List Span → String
  | [] => ""
  | s :: rest =>
    let blanks := (s.start.column - 1) - column
    let width := Nat.max 1 (s.stop.column - s.start.column)
    "".pushn ' ' blanks ++ "".pushn '^' width ++ carets (column + blanks + width) rest

/-- Every line of a pattern, numbered if there are several, with carets under the spans on it. -/
def draw (pattern : String) (spans : List Span) : String :=
  let all := lines pattern
  let count := all.length + (if pattern.endsWith "\n" then 1 else 0)
  let width := if count ≤ 1 then 0 else (toString count).length
  let drawn := all.zipIdx.map fun (line, i) =>
    let number := toString (i + 1)
    let label := if width = 0 then "    " else "".pushn ' ' (width - number.length) ++ number ++ ": "
    let here := (spans.filter fun s => s.isOneLine && s.start.line == i + 1).mergeSort precedes
    let padding := "".pushn ' ' (if width = 0 then 4 else width + 2)
    label ++ line ++ "\n" ++ (if here.isEmpty then "" else padding ++ carets 0 here ++ "\n")
  String.join drawn

/-- Where the spans over several lines begin and end. -/
def longSpans (spans : List Span) : String :=
  let long := (spans.filter fun s => !s.isOneLine).mergeSort precedes
  if long.isEmpty then ""
  else
    "\n".intercalate (long.map fun s =>
      "on line " ++ toString s.start.line ++ " (column " ++ toString s.start.column ++
        ") through line " ++ toString s.stop.line ++ " (column " ++
        toString (s.stop.column - 1) ++ ")") ++ "\n"

/-- A fault drawn under its pattern. -/
def report (pattern : String) (spans : List Span) (message : String) : String :=
  let drawing := draw pattern spans
  let rule := "".pushn '~' 79 ++ "\n"
  "regex parse error:\n" ++
    (if pattern.contains '\n' then rule ++ drawing ++ rule ++ longSpans spans else drawing) ++
    "error: " ++ message

end Notation

def Error.message (pattern : String) : Error → String
  | writing e => Notation.report pattern (e.span :: e.other.toList) e.fault.message
  | meaning fault span => Notation.report pattern [span] fault.message
  | tooLarge => "Compiled regex exceeds size limit of " ++ toString sizeLimit ++ " bytes."

end Schemata.Regex
