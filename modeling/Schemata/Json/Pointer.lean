import Schemata.Json.Basic
import Schemata.Text.Split

/-!
# JSON Pointers

* `Pointer.escape`, `Pointer.unescapeChars` : one token, `~` written `~0` and `/` written `~1`;
* `Pointer.append` : a pointer with further tokens;
* `Pointer.tokens?` : the tokens of a pointer, which is empty or begins with `/`;
* `Pointer.position?`, `Pointer.index?` : the position in an array that a token writes;
* `Json.atPointer?`, `Json.replaceAt?` : the value a pointer leads to, and a value with that place
  replaced.
-/

namespace Schemata

namespace Pointer

/-! ## Tokens -/

/-- The written form of a token's characters. -/
def escapeChars : List Char → List Char
  | [] => []
  | '~' :: rest => '~' :: '0' :: escapeChars rest
  | '/' :: rest => '~' :: '1' :: escapeChars rest
  | c :: rest => c :: escapeChars rest

/-- The characters of a written token; a `~` that starts no escape stands for itself. -/
def unescapeChars : List Char → List Char
  | [] => []
  | '~' :: '0' :: rest => '~' :: unescapeChars rest
  | '~' :: '1' :: rest => '/' :: unescapeChars rest
  | c :: rest => c :: unescapeChars rest

/-- One token as it stands in a pointer. -/
def escape (token : String) : String := String.ofList (escapeChars token.toList)

def child (parent token : String) : String := parent ++ "/" ++ escape token

/-- A pointer with more tokens. -/
def append (parent : String) (tokens : List String) : String := tokens.foldl child parent

/-! ## Reading a pointer -/

def tokens? (pointer : String) : Option (List String) :=
  match pointer.toList with
  | [] => some []
  | '/' :: rest => some ((Text.pieces '/' rest).map fun piece => String.ofList (unescapeChars piece))
  | _ => none

/-- The position that a token writes: decimal digits without a sign or a leading zero. -/
def position? (token : String) : Option Nat :=
  match token.toList with
  | [] => none
  | ['0'] => some 0
  | '0' :: _ => none
  | cs => if cs.all Char.isDigit then some (Text.digitsValue cs) else none

/-- A position below `2^64`. -/
def index? (token : String) : Option Nat := (position? token).filter (· < 0x10000000000000000)

end Pointer

namespace Json

/-! ## Places in a value -/

def step? (value : Json) (token : String) : Option Json :=
  match value with
  | .object members => members.lookup token
  | .array items => (Pointer.position? token).bind fun i => items[i]?
  | _ => none

def atTokens? (value : Json) (tokens : List String) : Option Json := tokens.foldlM step? value

def atPointer? (value : Json) (pointer : String) : Option Json :=
  (Pointer.tokens? pointer).bind value.atTokens?

/-- The value with another one at the place that tokens lead to, if they lead to one. -/
def replaceAtTokens? (value : Json) : (tokens : List String) → (replacement : Json) → Option Json
  | [], replacement => some replacement
  | token :: rest, replacement =>
    match value with
    | .object members => do
      let old ← members.lookup token
      let new ← old.replaceAtTokens? rest replacement
      some (.object (setMember token new members))
    | .array items => do
      let i ← Pointer.position? token
      let old ← items[i]?
      let new ← old.replaceAtTokens? rest replacement
      some (.array (items.set i new))
    | _ => none

/-- The value with another one at the place of a pointer. -/
def replaceAt? (value : Json) (pointer : String) (replacement : Json) : Option Json :=
  (Pointer.tokens? pointer).bind fun tokens => value.replaceAtTokens? tokens replacement

end Json

end Schemata
