import Schemata.Regex.Error
import Schemata.Text.Quoted

/-!
# Errors of schemas

* `SchemaError` : why a schema cannot be used, and at which pointer;
* `SchemaError.message` : its text.
-/

namespace Schemata

/-- Why a schema cannot be used; `path` is the pointer of the node at fault. -/
inductive SchemaError where
  | notASchema (path found : String)
  | invalidKeyword (path keyword expected : String)
  | invalidPattern (path source : String) (reason : Regex.Error)
  | malformedReference (path : String)
  deriving DecidableEq, Repr

namespace SchemaError

def path : SchemaError → String
  | notASchema path _ | invalidKeyword path _ _ | invalidPattern path _ _
  | malformedReference path => path

def message : SchemaError → String
  | notASchema path found =>
    "Schema node at " ++ path ++ " must be an object or a boolean, found " ++ found
  | invalidKeyword path keyword expected =>
    "Invalid '" ++ keyword ++ "' at " ++ path ++ ": expected " ++ expected
  | invalidPattern path source reason =>
    "Invalid pattern at " ++ path ++ " (" ++ Text.quoted source ++ "): " ++ reason.message source
  | malformedReference path => "Malformed reference at " ++ path ++ ": '$ref' must be a string"

end SchemaError

end Schemata
