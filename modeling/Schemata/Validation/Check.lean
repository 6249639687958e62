import Schemata.Field.Path
import Schemata.Json.Equality
import Schemata.Report.Hint
import Schemata.Schema.Node
import Schemata.Text.Quoted

/-!
# What is wrong with a value

* `Findings` : violations and warnings, in the order they were found;
* `Rules.checkString`, `Rules.checkNumber`, `Rules.checkRequired` : the keywords of single values;
* `Node.check` : a value against a schema, with all parts of the value that the schema speaks about,
  down to a greatest depth.

A wrong kind hides all else below its place, and so do a reference and an allowed `null`.
-/

namespace Schemata

structure Findings where
  errors : List Violation := []
  warnings : List Warning := []

namespace Findings

def empty : Findings := {}

def append (a b : Findings) : Findings := ⟨a.errors ++ b.errors, a.warnings ++ b.warnings⟩

instance : Append Findings := ⟨append⟩

def ofErrors (errors : List Violation) : Findings := ⟨errors, []⟩

def ofWarning (path : FieldPath) (kind : WarningKind) (suggestion : String) : Findings :=
  ⟨[], [⟨path.label, kind, suggestion⟩]⟩

end Findings

/-- A violation at a path; its hint follows from its kind and what was expected. A missing field is
called by its own name there. -/
def Violation.at (path : FieldPath) (kind : ViolationKind) (message : String)
    (expected received : Option Json) : Violation :=
  let subject := match kind, path.getLast? with
    | .required, some (.name name) => name
    | _, _ => path.label
  { field := path.label
    path := path.toPointer
    message := message
    kind := kind
    expected := expected
    received := received
    fix := Hint.fix? kind (expected.getD .null) subject }

/-- A violation of a bound at a path; the hint tells whether the limit itself is allowed. -/
def Violation.ofBound (path : FieldPath) (kind : ViolationKind) (message : String) (bound : Bound)
    (received : Number) : Violation :=
  { field := path.label
    path := path.toPointer
    message := message
    kind := kind
    expected := some (.number bound.limit)
    received := some (.number received)
    fix := Hint.bound? kind (.number bound.limit) bound.exclusive }

namespace Rules

/-! ## Keywords of single values -/

/-- The value has none of the allowed kinds. -/
def typeError? (rules : Rules) (path : FieldPath) (value : Json) : Option Violation :=
  match rules.kind with
  | none => none
  | some kind =>
    if kind.accepts value then none
    else
      some (.at path .type
        ("Expected " ++ kind.tag ++ " but received " ++ value.kindName)
        (some (.string kind.tag)) (some (.string value.kindName)))

/-- What a keyword finds: nothing where it is absent or the value meets what it asks. -/
def keyword {α : Type} (asked : Option α) (meets : α → Bool) (violation : α → Violation) :
    List Violation :=
  match asked with
  | none => []
  | some a => if meets a then [] else [violation a]

def checkAllowed (rules : Rules) (path : FieldPath) (value : Json) : List Violation :=
  keyword rules.allowed (fun values => values.any fun candidate => candidate.equal value)
    fun values => .at path .enum ("Value must be one of: " ++ Hint.listing values)
      (some (.array values)) (some value)

def checkFormat (rules : Rules) (path : FieldPath) (s : String) : List Violation :=
  keyword rules.format (fun format => format.check s)
    fun format => .at path .format ("Value " ++ Text.quoted s ++ " is not a valid " ++ format.noun)
      (some (.string format.name)) (some (.string s))

def checkPattern (rules : Rules) (path : FieldPath) (s : String) : List Violation :=
  keyword rules.pattern (fun pattern => pattern.isMatch s) fun pattern =>
    let message := match Format.ofPattern? pattern.source with
      | some format => "Value " ++ Text.quoted s ++ " is not a valid " ++ format.noun
      | none => "Value " ++ Text.quoted s ++ " does not match pattern " ++ Text.quoted pattern.source
    .at path .pattern message (some (.string pattern.source)) (some (.string s))

def checkMinLength (rules : Rules) (path : FieldPath) (s : String) : List Violation :=
  keyword rules.minLength (fun least => least ≤ s.length) fun least =>
    .at path .minLength
      ("String length " ++ toString s.length ++ " is less than minimum length " ++ toString least)
      (some (.ofNat least)) (some (.string s))

def checkMaxLength (rules : Rules) (path : FieldPath) (s : String) : List Violation :=
  keyword rules.maxLength (fun greatest => s.length ≤ greatest) fun greatest =>
    .at path .maxLength
      ("String length " ++ toString s.length ++ " exceeds maximum length " ++ toString greatest)
      (some (.ofNat greatest)) (some (.string s))

/-- The keywords of texts; lengths count characters. -/
def checkString (rules : Rules) (path : FieldPath) (s : String) : List Violation :=
  rules.checkFormat path s ++ rules.checkPattern path s ++ rules.checkMinLength path s
    ++ rules.checkMaxLength path s

def checkMinimum (rules : Rules) (path : FieldPath) (n : Number) : List Violation :=
  keyword rules.minimum (fun bound => !bound.rejectsBelow n) fun bound =>
    let relation :=
      if bound.exclusive then " is not greater than exclusive minimum " else " is less than minimum "
    .ofBound path .minimum ("Value " ++ n.text ++ relation ++ bound.limit.text) bound n

def checkMaximum (rules : Rules) (path : FieldPath) (n : Number) : List Violation :=
  keyword rules.maximum (fun bound => !bound.rejectsAbove n) fun bound =>
    let relation :=
      if bound.exclusive then " is not less than exclusive maximum " else " exceeds maximum "
    .ofBound path .maximum ("Value " ++ n.text ++ relation ++ bound.limit.text) bound n

def checkNumber (rules : Rules) (path : FieldPath) (n : Number) : List Violation :=
  rules.checkMinimum path n ++ rules.checkMaximum path n

def checkRequired (rules : Rules) (path : FieldPath) (members : List (String × Json)) :
    List Violation :=
  (rules.required.filter fun name => (members.lookup name).isNone).map fun name =>
    .at (path ++ [.name name]) .required ("Missing required field '" ++ name ++ "'") none none

/-- The description of a field, if it recommends to give one. -/
def recommendation? (rules : Rules) : Option String :=
  rules.description.filter fun text =>
    let lower := String.ofList (text.toList.map Char.toLower)
    lower.contains "recommended" || lower.contains "should"

/-! ## Warnings -/

/-- A field that is there and deprecated. -/
def warnDeprecated (rules : Rules) (path : FieldPath) (name : String) : Findings :=
  if rules.deprecated then
    .ofWarning path .deprecated
      ("Field '" ++ name ++ "' is deprecated and may be removed in a future version")
  else .empty

/-- A field that is not there but recommended. -/
def warnAbsent (rules : Rules) (path : FieldPath) (name : String) : Findings :=
  match rules.recommendation? with
  | some description =>
    .ofWarning path .optional ("Consider providing '" ++ name ++ "': " ++ description)
  | none => .empty

end Rules

/-- A field that is not declared where only declared ones are welcome. -/
def Findings.undeclared (path : FieldPath) (name : String) : Findings :=
  .ofWarning path .bestPractice
    ("Field '" ++ name ++ "' is not declared in the schema; remove it or check its spelling")

def Findings.join : List Findings → Findings
  | [] => .empty
  | a :: rest => a ++ join rest

namespace Node

mutual

/-- What is wrong with a value at a path, `limit` being the greatest depth. -/
def check (limit : Nat) (path : FieldPath) : Node → Json → Findings
  | .reference _, _ => .empty
  | .schema rules properties items additional _, value =>
    if limit < path.length then .empty
    else if value = .null ∧ rules.nullable then .empty
    else
      match rules.typeError? path value with
      | some violation => .ofErrors [violation]
      | none =>
        .ofErrors (rules.checkAllowed path value) ++
          match value with
          | .string s => .ofErrors (rules.checkString path s)
          | .number n => .ofErrors (rules.checkNumber path n)
          | .object members =>
            .ofErrors (rules.checkRequired path members)
              ++ checkProperties limit path rules.required members properties
              ++ checkAdditional limit path additional
                (members.filter fun m => (properties.lookup m.1).isNone)
          | .array values => checkItems limit path items values
          | .bool _ | .null => .empty

def checkProperties (limit : Nat) (path : FieldPath) (required : List String)
    (members : List (String × Json)) : List (String × Node) → Findings
  | [] => .empty
  | (name, node) :: rest =>
    let place := path ++ [.name name]
    let found := match members.lookup name with
      | some value => node.rules.warnDeprecated place name ++ check limit place node value
      | none => if required.contains name then .empty else node.rules.warnAbsent place name
    found ++ checkProperties limit path required members rest

def checkItems (limit : Nat) (path : FieldPath) : Option Node → List Json → Findings
  | none, _ => .empty
  | some node, values =>
    Findings.join (values.mapIdx fun i value => check limit (path ++ [.index i]) node value)

/-- The members of an object that are not declared. -/
def checkAdditional (limit : Nat) (path : FieldPath) :
    Additional Node → List (String × Json) → Findings
  | .open, _ => .empty
  | .forbidden, members =>
    Findings.join (members.map fun m => .undeclared (path ++ [.name m.1]) m.1)
  | .constrained node, members =>
    Findings.join (members.map fun m => check limit (path ++ [.name m.1]) node m.2)

end

end Node

end Schemata
