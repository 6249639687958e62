import Schemata.Command.Arguments
import Schemata.Command.File
import Schemata.Example.Calls
import Schemata.Field.Lookup
import Schemata.Json.Printer
import Schemata.Report.Encode
import Schemata.Schema.Render

/-!
# Running the command line

* `Failure` : why a job cannot be done, and its report;
* `Outcome` : how a run ends, with its exit code and what it prints;
* `run` : what arguments ask for, done with an access to files.
-/

namespace Schemata.Command

/-! ## Failures -/

/-- What a document that is read is needed for. -/
inductive DocumentRole where
  | schema | payload | description
  deriving DecidableEq, Repr

def DocumentRole.text : DocumentRole → String
  | schema => "schema"
  | payload => "payload"
  | description => "OpenAPI document"

/-- Why a job cannot be done. -/
inductive Failure where
  | unreadable (role : DocumentRole) (name : String) (fault : FileFault)
  | unparsable (role : DocumentRole) (name : String) (error : DocumentError)
  | absentSchema (endpoint : Endpoint) (lookup : SchemaLookup)
  | badSchema (error : SchemaError)
  | unwritable (name : String) (fault : FileFault)

namespace Failure

def text : Failure → String
  | unreadable role name _ => "Failed to open " ++ role.text ++ " file: " ++ name
  | unparsable role name _ => "Failed to parse " ++ role.text ++ " from: " ++ name
  | absentSchema endpoint lookup => "No schema for " ++ endpoint.text ++ ": " ++ lookup.text
  | badSchema _ => "Schema could not be compiled"
  | unwritable name _ => "Failed to create output file: " ++ name

def cause? : Failure → Option String
  | unreadable _ _ fault | unwritable _ fault => some fault.message
  | unparsable _ _ error => some error.message
  | badSchema error => some error.message
  | absentSchema _ _ => none

/-- Lines below a heading. -/
def indented (text : String) : String :=
  "\n    ".intercalate ("" :: (Text.pieces '\n' text.toList).map String.ofList)

def report (failure : Failure) : String :=
  "Error: " ++ failure.text ++
    (failure.cause?.map fun cause => "\n\nCaused by:" ++ indented cause).getD "" ++ "\n"

end Failure

/-! ## Outcomes -/

/-- How a run ends. -/
inductive Outcome where
  /-- The job is done; a payload that is not valid counts as a lack of success. -/
  | done (success : Bool) (printed : String)
  | failed (failure : Failure)
  | misused (error : UsageError)
  | help
  /-- An example is asked for that there is no room for, and the run breaks off. -/
  | overflowed

namespace Outcome

def code : Outcome → Nat
  | done true _ | help => 0
  | done false _ | failed _ => 1
  | misused _ => 2
  | overflowed => 101

def helpText : String :=
  "Validate API payloads and generate examples from resolved JSON Schemas\n\n" ++
  "  jsonschema-payload validate PAYLOAD SOURCE [--max-depth N]\n" ++
  "  jsonschema-payload example SOURCE [--required-only] [--max-depth N]\n" ++
  "  jsonschema-payload field PATH SOURCE\n\n" ++
  "SOURCE is --schema FILE, or --openapi FILE --path PATH --method METHOD [--response [STATUS]].\n" ++
  "Everywhere: --verbose, --output FILE, --format pretty|compact.\n"

def printed : Outcome → String
  | done _ printed => printed
  | help => helpText
  | _ => ""

def report? : Outcome → Option String
  | failed failure => some failure.report
  | _ => none

end Outcome

/-! ## Jobs -/

def versionText : String := "jsonschema-payload 0.1.0\n"

/-- What is printed for a field that the schema does not reach. -/
def noRules : String := "no additional rules available for this field"

section
variable {m : Type → Type} [Monad m] (files : FileAccess m)

def readDocument (role : DocumentRole) (name : String) : ExceptT Failure m Json := do
  match ← files.read name with
  | .error fault => throw (.unreadable role name fault)
  | .ok content =>
    match files.parse name content with
    | .error e => throw (.unparsable role name e)
    | .ok value => return value

/-- The schema that a job is about. -/
def readSchema (source : SchemaSource) : ExceptT Failure m Json := do
  match source with
  | .file name => readDocument files .schema name
  | .description name endpoint =>
    match endpoint.lookup (← readDocument files .description name) with
    | .found schema => return schema
    | absent => throw (.absentSchema endpoint absent)

/-- Write an answer, as a line, to where it goes. -/
def put (output : Option String) (success : Bool) (answer : String) : ExceptT Failure m Outcome := do
  let line := answer ++ "\n"
  match output with
  | none => return .done success line
  | some name =>
    match ← files.write name line with
    | .ok () => return .done success ""
    | .error fault => throw (.unwritable name fault)

def Layout.write : Layout → Json → String
  | pretty, value => value.pretty
  | compact, value => value.compact

def compiled (schema : Json) : ExceptT Failure m Node :=
  match Node.compile schema with
  | .ok node => return node
  | .error e => throw (.badSchema e)

def Job.perform (job : Job) : ExceptT Failure m Outcome := do
  let schema ← readSchema files job.source
  match job.task with
  | .validate payload options =>
    let report := Schemata.validate options (← readDocument files .payload payload) schema
    put files job.output report.valid (job.layout.write report.toJson)
  | .example options =>
    match (← compiled schema).example? options with
    | some value => put files job.output true (job.layout.write value)
    | none => return .overflowed
  | .field path =>
    match (← compiled schema).field path with
    | .resolved node => put files job.output true (job.layout.write node.toJson)
    | .unresolved _ _ => put files job.output true noRules

def run (arguments : List String) : m Outcome := do
  match Request.ofArguments arguments with
  | .error e => return .misused e
  | .ok .help => return .help
  | .ok .version => return .done true versionText
  | .ok (.job job) =>
    match ← (job.perform files).run with
    | .ok outcome => return outcome
    | .error failure => return .failed failure

end

end Schemata.Command
