import Schemata.Schema.Compile
import Schemata.Validation.Check

/-!
# Validation

* `ValidateOptions` : how deep a value is looked at;
* `Node.validate` : the report of a value against a schema that was read;
* `validate` : the same for a schema as a value, which may be none.
-/

namespace Schemata

/-- The greatest depth that is looked at. -/
structure ValidateOptions where
  maxDepth : Nat := 64
  deriving DecidableEq, Repr

def Node.validate (node : Node) (options : ValidateOptions) (payload : Json) : Report :=
  let findings := node.check options.maxDepth [] payload
  .ofFindings findings.errors findings.warnings

/-- The report of a value against a schema; a schema that cannot be read is reported too. -/
def validate (options : ValidateOptions) (payload schema : Json) : Report :=
  match Node.compile schema with
  | .ok node => node.validate options payload
  | .error e => .ofSchemaError e

end Schemata
