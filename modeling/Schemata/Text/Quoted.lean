import Schemata.Unicode.Property

/-!
# Quoted texts in messages

* `isUnprintable` : the characters that messages show by their code;
* `quoted` : a text in quotes, with short escapes and `\u{...}` for the unprintable ones.
-/

namespace Schemata.Text

/-- Controls, formats, surrogates, private and unassigned characters and separators other than the
blank. -/
def unprintable : CharSet :=
  (Unicode.categorySet ["Cc", "Cf", "Cn", "Co", "Zl", "Zp", "Zs"]).diff (.ofChar ' ')

/-- Characters that attach to the one before them. -/
def attaching : CharSet := (Unicode.setUnder? Unicode.binaryProperties "Grapheme_Extend").getD .empty

def isUnprintable (c : Char) : Bool :=
  if c.toNat < 0x7F then c.toNat < 0x20 else unprintable.contains c || attaching.contains c

def hexText (n : Nat) : String := String.ofList (Nat.toDigits 16 n)

/-- A character as it stands between the quotes. -/
def quotedChar (c : Char) : String :=
  match c with
  | '\x00' => "\\0"
  | '\t' => "\\t"
  | '\r' => "\\r"
  | '\n' => "\\n"
  | '\\' => "\\\\"
  | '"' => "\\\""
  | c => if isUnprintable c then "\\u\x7b" ++ hexText c.toNat ++ "\x7d" else c.toString

def quoted (text : String) : String := "\"" ++ String.join (text.toList.map quotedChar) ++ "\""

end Schemata.Text
