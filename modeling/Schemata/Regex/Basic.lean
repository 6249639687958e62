import Schemata.Regex.Elaborate
import Schemata.Regex.Parser
import Schemata.Regex.Size

/-!
# Regular expressions

* `Regex.compile` : the expression of a pattern, or why the pattern cannot be used.
-/

namespace Schemata.Regex

def compile (pattern : String) : Except Error Expr := do
  let ast ← (Ast.parse pattern).mapError .writing
  let (expr, _) ← ast.elaborate {}
  if sizeLimit < expr.automatonSize then throw .tooLarge
  return expr

end Schemata.Regex
