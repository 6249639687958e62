import Schemata.Format.Basic
import Schemata.Json.Printer
import Schemata.Report.Basic

/-!
# Hints

* `Hint.fix?` : how to mend a violation, from its kind, what its keyword asks for, and the field;
* `Hint.bound?` : the same for a limit, which may be exclusive.
-/

namespace Schemata.Hint

/-- Values in a message: texts as they are, all others as JSON. -/
def listing (values : List Json) : String :=
  ", ".intercalate (values.map fun value =>
    match value with
    | .string s => s
    | value => value.compact)

/-- A value of a kind. -/
def sample? (tag : String) : Option String :=
  match tag with
  | "string" => some "\"text\""
  | "integer" => some "42"
  | "number" => some "42.5"
  | "boolean" => some "true"
  | "array" => some "[]"
  | "object" => some "\x7b\x7d"
  | "null" => some "null"
  | _ => none

def type (tag : String) : String :=
  "Provide a value of type " ++ tag ++
    match sample? tag with
    | some sample => ", e.g. " ++ sample
    | none => ""

def format (f : Format) : String :=
  match f.template?, f.example? with
  | some template, some text => "Use the format " ++ template ++ ", e.g. " ++ text
  | none, some text => "Use a valid " ++ f.noun ++ ", e.g. " ++ text
  | _, none => "Use a valid " ++ f.noun ++ " value"

def pattern (source : String) : String :=
  match Format.ofPattern? source with
  | some f => format f
  | none => "Value must match pattern: `" ++ source ++ "`"

/-- How to meet a limit of a length or a number. -/
def bound? (kind : ViolationKind) (limit : Json) (exclusive : Bool) : Option String :=
  match limit with
  | .number n =>
    match kind with
    | .minLength => some ("Value must be at least " ++ n.text ++ " characters long")
    | .maxLength => some ("Value must be at most " ++ n.text ++ " characters long")
    | .minimum =>
      some (if exclusive then "Value must be greater than " ++ n.text
        else "Value must be at least " ++ n.text)
    | .maximum =>
      some (if exclusive then "Value must be less than " ++ n.text
        else "Value must be at most " ++ n.text)
    | _ => none
  | _ => none

/-- How to mend a violation, if what its keyword asks for has the right form. -/
def fix? (kind : ViolationKind) (constraint : Json) (field : String) : Option String :=
  match kind with
  | .required => some ("Add the required field `" ++ field ++ "` to the payload")
  | .type => constraint.string?.map type
  | .format => constraint.string?.map fun name => format (.ofName name)
  | .pattern => constraint.string?.map pattern
  | .enum => constraint.items?.map fun values => "Use one of the allowed values: " ++ listing values
  | .minLength | .maxLength | .minimum | .maximum => bound? kind constraint false
  | .custom => none

end Schemata.Hint
