import Schemata.Json.Basic
import Schemata.Schema.Error

/-!
# Reports

* `Violation` : one thing wrong with a value; `Warning` : one thing worth knowing;
* `Report` : all of them, with the verdict and a summary;
* `Report.ofFindings`, `Report.ofSchemaError` : the reports that a validation gives.
-/

namespace Schemata

/-- What a violation is about: a keyword of the schema, or something else. -/
inductive ViolationKind where
  | required | type | format | pattern | enum | minLength | maxLength | minimum | maximum | custom
  deriving DecidableEq, Repr

namespace ViolationKind

def all : List ViolationKind :=
  [required, type, format, pattern, enum, minLength, maxLength, minimum, maximum, custom]

def name : ViolationKind → String
  | required => "required"
  | type => "type"
  | format => "format"
  | pattern => "pattern"
  | enum => "enum"
  | minLength => "minLength"
  | maxLength => "maxLength"
  | minimum => "minimum"
  | maximum => "maximum"
  | custom => "custom"

end ViolationKind

/-- What a warning is about: an absent field that is recommended, a field that is not declared, or
one that is going away. -/
inductive WarningKind where
  | optional | bestPractice | deprecated
  deriving DecidableEq, Repr

namespace WarningKind

def all : List WarningKind := [optional, bestPractice, deprecated]

def name : WarningKind → String
  | optional => "optional"
  | bestPractice => "best-practice"
  | deprecated => "deprecated"

end WarningKind

/-- One thing wrong with a value. The field is named by its dotted path and by its pointer; `expected`
is what the keyword asks for, `received` what was found. -/
structure Violation where
  field : String
  path : String
  message : String
  kind : ViolationKind
  expected : Option Json
  received : Option Json
  fix : Option String
  deriving DecidableEq

/-- One thing worth knowing about a value that may be valid. -/
structure Warning where
  field : String
  kind : WarningKind
  suggestion : String
  deriving DecidableEq, Repr

structure Report where
  valid : Bool
  errors : List Violation
  warnings : List Warning
  summary : String
  deriving DecidableEq

namespace Report

def summarize (count : Nat) : String :=
  if count = 0 then "Payload is valid" else "Found " ++ toString count ++ " validation error(s)"

/-- The report of some findings; a value is valid if nothing is wrong with it. -/
def ofFindings (errors : List Violation) (warnings : List Warning) : Report :=
  ⟨errors.isEmpty, errors, warnings, summarize errors.length⟩

/-- The report where the schema cannot be used. -/
def ofSchemaError (e : SchemaError) : Report :=
  ofFindings [{
    field := "schema"
    path := ""
    message := "Schema could not be compiled: " ++ e.message
    kind := .custom
    expected := none
    received := some (.string e.path)
    fix := none }] []

end Report

end Schemata
