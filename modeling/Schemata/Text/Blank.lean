/-!
# Blanks

* `isBlank` : the characters with the White_Space property;
* `trimBlanks` : a text without the blanks at its ends.
-/

namespace Schemata.Text

/-- The White_Space property of Unicode. -/
def isBlank (c : Char) : Bool :=
  let n := c.toNat
  (9 ≤ n && n ≤ 13) || n == 0x20 || n == 0x85 || n == 0xA0 || n == 0x1680
    || (0x2000 ≤ n && n ≤ 0x200A) || n == 0x2028 || n == 0x2029 || n == 0x202F || n == 0x205F
    || n == 0x3000

def trimBlanks (text : String) : String :=
  let inner := text.toList.dropWhile isBlank
  String.ofList ((inner.reverse.dropWhile isBlank).reverse)

end Schemata.Text
