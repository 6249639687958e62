import Schemata.Report.Basic

/-!
# Reports as JSON

* `Violation.toJson`, `Warning.toJson`, `Report.toJson` : absent parts and an empty list of warnings
  are left out.
-/

namespace Schemata

namespace Violation

/-- A member that is left out if it has no value. -/
def optional (name : String) (value : Option Json) : List (String × Json) :=
  (value.map fun v => (name, v)).toList

def toJson (v : Violation) : Json :=
  .object ([("field", .string v.field), ("path", .string v.path), ("message", .string v.message),
    ("kind", .string v.kind.name)]
    ++ optional "expected" v.expected ++ optional "received" v.received
    ++ optional "fixSuggestion" (v.fix.map .string))

end Violation

def Warning.toJson (w : Warning) : Json :=
  .object [("field", .string w.field), ("kind", .string w.kind.name),
    ("suggestion", .string w.suggestion)]

def Report.toJson (r : Report) : Json :=
  .object ([("valid", .bool r.valid), ("errors", .array (r.errors.map Violation.toJson))]
    ++ (if r.warnings.isEmpty then [] else [("warnings", .array (r.warnings.map Warning.toJson))])
    ++ [("summary", .string r.summary)])

end Schemata
