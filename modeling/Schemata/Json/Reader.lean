import Schemata.Json.Basic

/-!
# Reading JSON text

* `Reader.Fault` : what can be wrong with a text; `ReadError` adds the line and the column, the
  column counted in bytes of the UTF-8 form;
* `Reader.number`, `Reader.string`, `Reader.value` : the grammar, each on the characters that are
  left and returning strictly fewer of them;
* `Json.parse` : a whole text as one value.

Containers nest at most 127 deep. A failure records how many bytes of the text were left at its
place, so no function carries a position along.
-/

namespace Schemata

inductive Json.Fault where
  | eofInValue | eofInList | eofInObject | eofInString
  | expectedValue | expectedIdent | expectedColon | expectedListCommaOrEnd | expectedObjectCommaOrEnd
  | keyMustBeString | trailingComma | trailingCharacters
  | invalidNumber | numberOutOfRange
  | invalidEscape | loneSurrogate | unexpectedEndOfHexEscape | controlCharacter
  | recursionLimit
  deriving DecidableEq, Repr

def Json.Fault.message : Json.Fault → String
  | eofInValue => "EOF while parsing a value"
  | eofInList => "EOF while parsing a list"
  | eofInObject => "EOF while parsing an object"
  | eofInString => "EOF while parsing a string"
  | expectedValue => "expected value"
  | expectedIdent => "expected ident"
  | expectedColon => "expected `:`"
  | expectedListCommaOrEnd => "expected `,` or `]`"
  | expectedObjectCommaOrEnd => "expected `,` or `\x7d`"
  | keyMustBeString => "key must be a string"
  | trailingComma => "trailing comma"
  | trailingCharacters => "trailing characters"
  | invalidNumber => "invalid number"
  | numberOutOfRange => "number out of range"
  | invalidEscape => "invalid escape"
  | loneSurrogate => "lone leading surrogate in hex escape"
  | unexpectedEndOfHexEscape => "unexpected end of hex escape"
  | controlCharacter => "control character (\\u0000-\\u001F) found while parsing a string"
  | recursionLimit => "recursion limit exceeded"

/-- A fault at a place of the text. -/
structure Json.ReadError where
  fault : Json.Fault
  line : Nat
  column : Nat
  deriving DecidableEq

def Json.ReadError.message (e : Json.ReadError) : String :=
  e.fault.message ++ " at line " ++ toString e.line ++ " column " ++ toString e.column

namespace Json.Reader

/-! ## Places -/

/-- A fault with `left` bytes of the text after its place. -/
structure Failure where
  fault : Fault
  left : Nat

def byteSize (s : List Char) : Nat := s.foldl (fun n c => n + c.utf8Size) 0

/-- What follows a parsed piece of `s`: strictly fewer characters. -/
abbrev Rest (s : List Char) := { r : List Char // r.length < s.length }

/-- A fault at the place where `s` is left. -/
def failAt {α : Type} (fault : Fault) (s : List Char) : Except Failure α :=
  .error ⟨fault, byteSize s⟩

/-- A fault one byte after the place where `s` is left, or at the end of the text. -/
def failPast {α : Type} (fault : Fault) (s : List Char) : Except Failure α :=
  .error ⟨fault, byteSize s - 1⟩

def isBlank (c : Char) : Bool := c == ' ' || c == '\n' || c == '\t' || c == '\r'

def skipBlanks (s : List Char) : List Char := s.dropWhile isBlank

theorem length_skipBlanks_le (s : List Char) : (skipBlanks s).length ≤ s.length :=
  (List.dropWhile_sublist isBlank).length_le

theorem length_lt_of_skipBlanks {s t : List Char} {c : Char} (h : skipBlanks s = c :: t) :
    t.length < s.length := by
  have := length_skipBlanks_le s
  rw [h, List.length_cons] at this
  omega

/-- The order of pairs in which the readers of values go down. -/
theorem lex_of_lt {a b c d : Nat} (h : a < c ∨ a = c ∧ b < d) :
    Prod.Lex (· < ·) (· < ·) (a, b) (c, d) :=
  Prod.lex_def.mpr h

/-! ## Numbers -/

def digitsOf (s : List Char) : List Nat := (s.takeWhile Char.isDigit).map fun c => c.toNat - 48

def afterDigits (s : List Char) : List Char := s.dropWhile Char.isDigit

theorem length_afterDigits_le (s : List Char) : (afterDigits s).length ≤ s.length :=
  (List.dropWhile_sublist Char.isDigit).length_le

/-- A 64-bit significand with as many of the digits as it can hold, and the digits left over. -/
def extend (significand : Nat) : List Nat → Nat × List Nat
  | [] => (significand, [])
  | d :: rest =>
    if 10 * significand + d < 0x10000000000000000 then extend (10 * significand + d) rest
    else (significand, d :: rest)

/-- A number divided `steps` times by `10^308`. -/
def shrink? (x : Double) : (steps : Nat) → Option Double
  | 0 => some x
  | steps + 1 =>
    if x.mant = 0 then some x
    else (Double.powerOfTen? 308).bind fun p => (x.div? p).bind fun y => shrink? y steps

/-- `x · 10^exponent` as one rounded product or quotient with a power of ten; below `10^(-308)`
the number is first divided by `10^308`, as often as needed. `none` beyond the finite range. -/
def scale? (x : Double) (exponent : Int) : Option Double :=
  if x.mant = 0 then some x
  else if 308 < exponent then none
  else if 0 ≤ exponent then (Double.powerOfTen? exponent.toNat).bind x.mul?
  else
    let steps := ((-exponent).toNat - 1) / 308
    (shrink? x steps).bind fun y =>
      (Double.powerOfTen? ((-exponent).toNat - 308 * steps)).bind y.div?

/-- The double written with this sign, significand and exponent. -/
def scaled? (neg : Bool) (significand : Nat) (exponent : Int) : Option Double :=
  (scale? (Double.ofNat significand) exponent).map fun x => if neg then x.negate else x

/-- The largest exponent that is read digit by digit. -/
def maxExponent : Nat := 0x7fffffff

/-- The value of exponent digits, or how many of them make it exceed `maxExponent`. -/
def exponentValue (value used : Nat) : List Nat → Except Nat Nat
  | [] => .ok value
  | d :: rest =>
    if maxExponent < 10 * value + d then .error (used + 1)
    else exponentValue (10 * value + d) (used + 1) rest

/-- The exponent after its letter: sign, digits, and the text after them. -/
def exponent (neg : Bool) (significand : Nat) (start : Int) (s : List Char) :
    Except Failure (Double × { r : List Char // r.length ≤ s.length }) :=
  let signed : Bool × { t : List Char // t.length ≤ s.length } :=
    match s with
    | '+' :: t => (false, ⟨t, by simp⟩)
    | '-' :: t => (true, ⟨t, by simp⟩)
    | t => (false, ⟨t, Nat.le_refl _⟩)
  let down := signed.1
  let digits := signed.2.1
  let rest : { r : List Char // r.length ≤ s.length } :=
    ⟨afterDigits digits, Nat.le_trans (length_afterDigits_le digits) signed.2.2⟩
  match digits with
  | [] => failAt .eofInValue []
  | c :: _ =>
    if !c.isDigit then failPast .invalidNumber digits
    else
      match exponentValue 0 0 (digitsOf digits) with
      | .error used =>
        if significand = 0 ∨ down then .ok (Double.zero neg, rest)
        else failAt .numberOutOfRange (digits.drop used)
      | .ok e =>
        match scaled? neg significand (if down then start - e else start + e) with
        | some x => .ok (x, rest)
        | none => failAt .numberOutOfRange rest.1

/-- What follows the integral digits of a number: nothing, a fraction or an exponent. `exact` says
that the significand holds all the integral digits, `start` counts the ones it does not hold. -/
def afterIntegral (neg exact : Bool) (significand : Nat) (start : Int) (s : List Char) :
    Except Failure (Number × { r : List Char // r.length ≤ s.length }) :=
  match s with
  | '.' :: t =>
    if (digitsOf t).isEmpty then
      if t.isEmpty then failPast .eofInValue t else failPast .invalidNumber t
    else
      let (significand, dropped) := extend significand (digitsOf t)
      let start := start - ((digitsOf t).length - dropped.length : Nat)
      let u := afterDigits t
      have hu : u.length ≤ t.length := length_afterDigits_le t
      match u, hu with
      | 'e' :: v, hu | 'E' :: v, hu =>
        (exponent neg significand start v).map fun (x, r) =>
          (.double x, ⟨r.1, by have := r.2; simp at hu ⊢; omega⟩)
      | u, hu =>
        match scaled? neg significand start with
        | some x => .ok (.double x, ⟨u, by simp; omega⟩)
        | none => failAt .numberOutOfRange u
  | 'e' :: v | 'E' :: v =>
    (exponent neg significand start v).map fun (x, r) =>
      (.double x, ⟨r.1, by have := r.2; simp; omega⟩)
  | u =>
    if exact then
      let n : Int := if neg then -(significand : Int) else significand
      if h : (-0x8000000000000000 ≤ n ∧ n < 0x10000000000000000) ∧ ¬(neg ∧ significand = 0) then
        .ok (.integer n h.1, ⟨u, Nat.le_refl _⟩)
      else
        let x := Double.ofNat significand
        .ok (.double (if neg then x.negate else x), ⟨u, Nat.le_refl _⟩)
    else
      match scaled? neg significand start with
      | some x => .ok (.double x, ⟨u, Nat.le_refl _⟩)
      | none => failAt .numberOutOfRange u

/-- A number after its sign. -/
def number (neg : Bool) (s : List Char) : Except Failure (Number × Rest s) :=
  match s with
  | [] => failAt .eofInValue []
  | '0' :: t =>
    if (t.takeWhile Char.isDigit).isEmpty then
      (afterIntegral neg true 0 0 t).map fun (n, r) => (n, ⟨r.1, by have := r.2; simp; omega⟩)
    else failPast .invalidNumber t
  | c :: t =>
    if c.isDigit then
      let (significand, dropped) := extend (c.toNat - 48) (digitsOf t)
      (afterIntegral neg dropped.isEmpty significand dropped.length (afterDigits t)).map fun (n, r) =>
        (n, ⟨r.1, by have := r.2; have := length_afterDigits_le t; simp; omega⟩)
    else failPast .invalidNumber (c :: t)

/-! ## Strings -/

def hexValue? (c : Char) : Option Nat :=
  if c.isDigit then some (c.toNat - 48)
  else if 'a' ≤ c ∧ c ≤ 'f' then some (c.toNat - 87)
  else if 'A' ≤ c ∧ c ≤ 'F' then some (c.toNat - 55)
  else none

def hex4 (s : List Char) : Except Failure (Nat × { r : List Char // r.length < s.length }) :=
  if byteSize s < 4 then failAt .eofInString []
  else
    match s with
    | a :: b :: c :: d :: r =>
      match hexValue? a, hexValue? b, hexValue? c, hexValue? d with
      | some a, some b, some c, some d =>
        .ok (((a * 16 + b) * 16 + c) * 16 + d, ⟨r, by simp; omega⟩)
      | _, _, _, _ => .error ⟨.invalidEscape, byteSize s - 4⟩
    | _ => .error ⟨.invalidEscape, byteSize s - 4⟩

/-- The character of a `\u` escape, after the `u`; a leading surrogate takes a second escape. -/
def unicodeEscape (s : List Char) : Except Failure (Char × { r : List Char // r.length < s.length }) := do
  let (n, r) ← hex4 s
  if 0xDC00 ≤ n ∧ n ≤ 0xDFFF then failAt .loneSurrogate r.1
  else if n < 0xD800 ∨ 0xDBFF < n then .ok (Char.ofNat n, r)
  else
    match hr : r.1 with
    | [] => failAt .eofInString []
    | '\\' :: t =>
      match t, hr with
      | [], _ => failAt .eofInString []
      | 'u' :: u, hr => do
        let (m, q) ← hex4 u
        if m < 0xDC00 ∨ 0xDFFF < m then failAt .loneSurrogate q.1
        else
          .ok (Char.ofNat ((n - 0xD800) * 1024 + (m - 0xDC00) + 0x10000),
            ⟨q.1, by have h := q.2; have h' := r.2; simp [hr] at h'; omega⟩)
      | c :: u, _ => failPast .unexpectedEndOfHexEscape (c :: u)
    | _ :: _ => failPast .unexpectedEndOfHexEscape r.1

/-- The character that an escape letter stands for. -/
def shortEscape? : Char → Option Char
  | '"' => some '"'
  | '\\' => some '\\'
  | '/' => some '/'
  | 'b' => some '\x08'
  | 'f' => some '\x0c'
  | 'n' => some '\n'
  | 'r' => some '\r'
  | 't' => some '\t'
  | _ => none

/-- The rest of a string after its opening quote, `read` being its characters so far. -/
def stringFrom (n : Nat) (s : List Char) (fits : s.length ≤ n) (read : String) :
    Except Failure (String × { r : List Char // r.length < n }) :=
  match s with
  | [] => failAt .eofInString []
  | '"' :: r => .ok (read, ⟨r, by simp at fits; omega⟩)
  | '\\' :: t =>
    match t with
    | [] => failAt .eofInString []
    | 'u' :: u =>
      match unicodeEscape u with
      | .error e => .error e
      | .ok (c, r) => stringFrom n r.1 (by have := r.2; simp at fits; omega) (read.push c)
    | c :: r =>
      match shortEscape? c with
      | some d => stringFrom n r (by simp at fits; omega) (read.push d)
      | none => failPast .invalidEscape (c :: r)
  | c :: r =>
    if c.toNat < 32 then failPast .controlCharacter (c :: r)
    else stringFrom n r (by simp at fits; omega) (read.push c)
termination_by s.length
decreasing_by
  · have := r.2; simp only [List.length_cons]; omega
  · simp only [List.length_cons]; omega
  · simp only [List.length_cons]; omega

def string (s : List Char) : Except Failure (String × Rest s) := stringFrom s.length s (Nat.le_refl _) ""

/-! ## Values -/

/-- The rest of a word whose first letter has been seen. -/
def word : (letters s : List Char) → Except Failure { r : List Char // r.length ≤ s.length }
  | [], s => .ok ⟨s, Nat.le_refl _⟩
  | _ :: _, [] => failAt .eofInValue []
  | l :: ls, c :: s =>
    if c = l then (word ls s).map fun r => ⟨r.1, by have := r.2; simp; omega⟩
    else failPast .expectedIdent (c :: s)

/-- A word that stands for a value, after its first letter. -/
def constant (value : Json) (letters : String) (s : List Char) :
    Except Failure (Json × { r : List Char // r.length ≤ s.length }) :=
  (word letters.toList s).map fun r => (value, r)

/-- The colon between a name and its value, and the blanks before it. -/
def colon (s : List Char) : Except Failure { r : List Char // r.length ≤ s.length } :=
  match h : skipBlanks s with
  | [] => failPast .eofInObject []
  | ':' :: r => .ok ⟨r, by have := length_skipBlanks_le s; simp [h] at this; omega⟩
  | _ :: _ => failPast .expectedColon (skipBlanks s)

mutual

/-- A value, `room` being how many containers deep it may go. -/
def value (room : Nat) (s : List Char) : Except Failure (Json × Rest s) :=
  match h : skipBlanks s with
  | [] => failPast .eofInValue []
  | c :: t =>
    have ht := length_lt_of_skipBlanks h
    if c = 'n' then
      (constant .null "ull" t).map fun (v, r) => (v, ⟨r.1, by have := r.2; omega⟩)
    else if c = 't' then
      (constant (.bool true) "rue" t).map fun (v, r) => (v, ⟨r.1, by have := r.2; omega⟩)
    else if c = 'f' then
      (constant (.bool false) "alse" t).map fun (v, r) => (v, ⟨r.1, by have := r.2; omega⟩)
    else if c = '-' then
      (number true t).map fun (v, r) => (.number v, ⟨r.1, by have := r.2; omega⟩)
    else if c.isDigit then
      (number false (c :: t)).map fun (v, r) =>
        (.number v, ⟨r.1, by have : r.1.length < t.length + 1 := r.2; omega⟩)
    else if c = '"' then
      (string t).map fun (v, r) => (.string v, ⟨r.1, by have := r.2; omega⟩)
    else if c = '[' then
      if room = 0 then failPast .recursionLimit (c :: t)
      else (elements (room - 1) t.length t (Nat.le_refl _) []).map fun (v, r) =>
        (v, ⟨r.1, by have := r.2; omega⟩)
    else if c = '\x7b' then
      if room = 0 then failPast .recursionLimit (c :: t)
      else (members (room - 1) t.length t (Nat.le_refl _) []).map fun (v, r) =>
        (v, ⟨r.1, by have := r.2; omega⟩)
    else failPast .expectedValue (c :: t)
termination_by (s.length, 0)

/-- The rest of an array, `read` being its elements so far, the last one first. -/
def elements (room n : Nat) (s : List Char) (fits : s.length ≤ n) (read : List Json) :
    Except Failure (Json × { r : List Char // r.length < n }) :=
  match h : skipBlanks s with
  | [] => failPast .eofInList []
  | c :: t =>
    have ht := length_lt_of_skipBlanks h
    if c = ']' then .ok (.array read.reverse, ⟨t, by omega⟩)
    else if read.isEmpty then
      match value room (c :: t) with
      | .error e => .error e
      | .ok (v, r) => elements room n r.1 (by have : r.1.length < t.length + 1 := r.2; omega) [v]
    else if c = ',' then
      match skipBlanks t with
      | [] => failPast .eofInValue []
      | ']' :: u => failPast .trailingComma (']' :: u)
      | _ :: _ =>
        match value room t with
        | .error e => .error e
        | .ok (v, r) => elements room n r.1 (by have := r.2; omega) (v :: read)
    else failPast .expectedListCommaOrEnd (c :: t)
termination_by (s.length, 1)
decreasing_by
  · exact lex_of_lt (by rw [List.length_cons]; omega)
  · have : r.1.length < t.length + 1 := r.2; exact lex_of_lt (by omega)
  · exact lex_of_lt (by omega)
  · have := r.2; exact lex_of_lt (by omega)

/-- The rest of an object, `read` being its members so far. -/
def members (room n : Nat) (s : List Char) (fits : s.length ≤ n) (read : List (String × Json)) :
    Except Failure (Json × { r : List Char // r.length < n }) :=
  match h : skipBlanks s with
  | [] => failPast .eofInObject []
  | c :: t =>
    have ht := length_lt_of_skipBlanks h
    if c = '\x7d' then .ok (.object (membersOf read.reverse), ⟨t, by omega⟩)
    else if read.isEmpty then
      if c = '"' then member room n t (by omega) read else failPast .keyMustBeString (c :: t)
    else if c = ',' then
      match hu : skipBlanks t with
      | [] => failPast .eofInValue []
      | d :: u =>
        have hu := length_lt_of_skipBlanks hu
        if d = '"' then member room n u (by omega) read
        else if d = '\x7d' then failPast .trailingComma (d :: u)
        else failPast .keyMustBeString (d :: u)
    else failPast .expectedObjectCommaOrEnd (c :: t)
termination_by (s.length, 0)
decreasing_by
  · exact lex_of_lt (by omega)
  · exact lex_of_lt (by omega)

/-- A member after the opening quote of its name, and the rest of the object. -/
def member (room n : Nat) (s : List Char) (fits : s.length ≤ n) (read : List (String × Json)) :
    Except Failure (Json × { r : List Char // r.length < n }) :=
  match string s with
  | .error e => .error e
  | .ok (name, r) =>
    match colon r.1 with
    | .error e => .error e
    | .ok t =>
      match value room t.1 with
      | .error e => .error e
      | .ok (v, u) =>
        members room n u.1 (by have := r.2; have := t.2; have := u.2; omega) ((name, v) :: read)
termination_by (s.length, 1)
decreasing_by
  · have := r.2; have := t.2; exact lex_of_lt (by omega)
  · have := r.2; have := t.2; have := u.2; exact lex_of_lt (by omega)

end

/-- Line and column of the place with `left` bytes after it. -/
def place (text : String) (left : Nat) : Nat × Nat :=
  let index := text.utf8ByteSize - left
  let (line, column, _) := text.toList.foldl
    (fun (line, column, bytes) c =>
      if index ≤ bytes then (line, column, bytes)
      else if c = '\n' then (line + 1, 0, bytes + 1)
      else (line, column + Nat.min c.utf8Size (index - bytes), bytes + c.utf8Size))
    (1, 0, 0)
  (line, column)

end Json.Reader

def Json.parse (text : String) : Except Json.ReadError Json :=
  let result := do
    let (v, r) ← Json.Reader.value 127 text.toList
    match Json.Reader.skipBlanks r.1 with
    | [] => .ok v
    | rest => Json.Reader.failPast .trailingCharacters rest
  match result with
  | .ok v => .ok v
  | .error e =>
    let (line, column) := Json.Reader.place text e.left
    .error ⟨e.fault, line, column⟩

end Schemata
