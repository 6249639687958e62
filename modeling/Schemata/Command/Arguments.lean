import Schemata.Endpoint
import Schemata.Example.Basic
import Schemata.Text.Split
import Schemata.Validation.Basic

/-!
# Arguments of the command line

* `OptionName`, `Verb` : the options and the things to do, with their spellings;
* `Given` : what the arguments of one level give, before they are put together;
* `Request` : what is asked for; `Request.ofArguments` reads it off the arguments;
* `UsageError` : why arguments ask for nothing.

The arguments before the verb are one level and those after it another. An option that may stand on both
levels counts as given on the second.
-/

namespace Schemata.Command

/-! ## Spellings -/

inductive OptionName where
  | help | version | verbose | output | layout
  | schema | openApi | path | method | response | requiredOnly | maxDepth
  deriving DecidableEq, Repr

/-- Whether an option takes a value. -/
inductive Arity where
  | none | one | optional
  deriving DecidableEq, Repr

namespace OptionName

/-- The spelling after two dashes. -/
def long : OptionName → String
  | help => "help"
  | version => "version"
  | verbose => "verbose"
  | output => "output"
  | layout => "format"
  | schema => "schema"
  | openApi => "openapi"
  | path => "path"
  | method => "method"
  | response => "response"
  | requiredOnly => "required-only"
  | maxDepth => "max-depth"

/-- The letter after one dash. -/
def short? : OptionName → Option Char
  | help => some 'h'
  | version => some 'V'
  | verbose => some 'v'
  | output => some 'o'
  | _ => none

def arity : OptionName → Arity
  | help | version | verbose | requiredOnly => .none
  | response => .optional
  | _ => .one

end OptionName

/-- What can be done with a schema. -/
inductive Verb where
  | validate | example | field
  deriving DecidableEq, Repr

namespace Verb

def name : Verb → String
  | validate => "validate"
  | .example => "example"
  | field => "field"

def all : List Verb := [validate, .example, field]

def ofName? (name : String) : Option Verb := all.find? fun verb => verb.name == name

def options (verb : Verb) : List OptionName :=
  [.help, .verbose, .output, .layout, .schema, .openApi, .path, .method, .response] ++
    match verb with
    | validate => [.maxDepth]
    | .example => [.requiredOnly, .maxDepth]
    | field => []

/-- How many arguments besides options follow a verb. -/
def operands : Verb → Nat
  | validate | field => 1
  | .example => 0

end Verb

/-- The options that may precede a verb. -/
def leadingOptions : List OptionName := [.help, .version, .verbose, .output, .layout]

/-! ## Requests -/

inductive Layout where
  | pretty | compact
  deriving DecidableEq, Repr

/-- Where the schema comes from: a file of its own, or a body in an API description. -/
inductive SchemaSource where
  | file (name : String)
  | description (name : String) (endpoint : Endpoint)
  deriving DecidableEq, Repr

inductive Task where
  | validate (payload : String) (options : ValidateOptions)
  | example (options : ExampleOptions)
  | field (path : String)

/-- A task, the schema that it is about, and where the answer goes: to a file, or else to the standard
output. -/
structure Job where
  task : Task
  source : SchemaSource
  layout : Layout := .pretty
  output : Option String := none

inductive Request where
  | help | version
  | job (job : Job)

inductive UsageError where
  | unknownOption (written : String)
  | unknownVerb (written : String)
  | unexpectedArgument (written : String)
  | unexpectedValue (option : OptionName) (value : String)
  | invalidValue (option : OptionName) (value : String)
  | missingValue (option : OptionName)
  | repeated (option : OptionName)
  | missingVerb
  | missingOperand
  | emptyOperand
  | missingOption (option : OptionName)
  | conflict (first second : OptionName)
  deriving DecidableEq, Repr

def UsageError.message : UsageError → String
  | unknownOption written => "unexpected option " ++ written
  | unknownVerb written => "unknown command " ++ written
  | unexpectedArgument written => "unexpected argument " ++ written
  | unexpectedValue option value => "--" ++ option.long ++ " takes no value, found " ++ value
  | invalidValue option value => "invalid value for --" ++ option.long ++ ": " ++ value
  | missingValue option => "--" ++ option.long ++ " needs a value"
  | repeated option => "--" ++ option.long ++ " is given more than once"
  | missingVerb => "a command is needed: validate, example or field"
  | missingOperand => "an argument is missing"
  | emptyOperand => "an argument is empty"
  | missingOption option => "--" ++ option.long ++ " is missing"
  | conflict first second => "--" ++ first.long ++ " and --" ++ second.long ++ " exclude each other"

/-! ## Values of options -/

/-- The number that an argument writes, below `2^64`. A plus sign may precede it. -/
def word? (written : String) : Option Nat :=
  let digits := match written.toList with
    | '+' :: rest => rest
    | chars => chars
  if digits.isEmpty || !digits.all Char.isDigit then none
  else
    let n := Text.digitsValue digits
    if n < 0x10000000000000000 then some n else none

def Layout.ofName? : String → Option Layout
  | "pretty" => some .pretty
  | "compact" => some .compact
  | _ => none

/-- A value that an option may have. The name of a file is not empty. -/
def OptionName.accepts : OptionName → String → Bool
  | output, value | schema, value | openApi, value => !value.isEmpty
  | layout, value => (Layout.ofName? value).isSome
  | maxDepth, value => (word? value).isSome
  | _, _ => true

/-! ## One level of arguments -/

/-- What the arguments of one level give; the options have their values with them. -/
structure Given where
  options : List (OptionName × Option String) := []
  operands : List String := []

namespace Given

def has (given : Given) (option : OptionName) : Bool := given.options.any fun entry => entry.1 == option

def value? (given : Given) (option : OptionName) : Option String := (given.options.lookup option).join

def put (given : Given) (option : OptionName) (value : Option String) : Except UsageError Given :=
  if given.has option then .error (.repeated option)
  else if value.all option.accepts then .ok { given with options := given.options ++ [(option, value)] }
  else .error (.invalidValue option (value.getD ""))

/-- No value follows for the option that waits for one. -/
def settle (given : Given) : (waiting : Option OptionName) → Except UsageError Given
  | none => .ok given
  | some option =>
    if option.arity = .optional then given.put option none else .error (.missingValue option)

end Given

/-- How reading goes on after an option. -/
inductive AfterOption where
  | help | version
  /-- The next argument may be a value of `waiting`. -/
  | next (given : Given) (waiting : Option OptionName)

/-- Take an option, with the value that is written together with it. -/
def takeOption (given : Given) (option : OptionName) (attached : Option String) :
    Except UsageError AfterOption :=
  match option.arity, attached with
  | .none, some value => .error (.unexpectedValue option value)
  | .none, none =>
    match option with
    | .help => .ok .help
    | .version => .ok .version
    | _ => do return .next (← given.put option none) none
  | _, some value => do return .next (← given.put option (some value)) none
  | _, none => .ok (.next given (some option))

/-- Take an option that is written after two dashes, its value after an equals sign. -/
def takeLong (allowed : List OptionName) (given : Given) (written : List Char) :
    Except UsageError AfterOption :=
  let name := String.ofList (written.takeWhile fun c => c != '=')
  let attached := match written.dropWhile fun c => c != '=' with
    | _ :: value => some (String.ofList value)
    | [] => none
  match allowed.find? fun option => option.long == name with
  | some option => takeOption given option attached
  | none => .error (.unknownOption ("--" ++ name))

/-- Take the options whose letters are written after one dash. What follows the letter of an option with
a value is its value. -/
def takeShort (allowed : List OptionName) (given : Given) : List Char → Except UsageError AfterOption
  | [] => .ok (.next given none)
  | c :: rest =>
    match allowed.find? fun option => option.short? == some c with
    | none => .error (.unknownOption (String.ofList ['-', c]))
    | some option =>
      if option.arity = .none then do
        match ← takeOption given option none with
        | .next given _ => takeShort allowed given rest
        | other => return other
      else
        let attached := match rest with
          | [] => none
          | '=' :: value => some (String.ofList value)
          | value => some (String.ofList value)
        takeOption given option attached

/-- What may stand on a level. -/
structure Level where
  options : List OptionName
  /-- Whether a verb ends the level; it takes no operands then. -/
  endsWithVerb : Bool
  operands : Nat

def Level.leading : Level := ⟨leadingOptions, true, 0⟩

def Level.after (verb : Verb) : Level := ⟨verb.options, false, verb.operands⟩

/-- How the arguments of a level end. -/
inductive LevelEnd where
  | help | version
  | finished (given : Given)
  /-- With a verb, at the arguments that follow it. -/
  | verb (given : Given) (written : String) (rest : List String)

def Level.addOperand (level : Level) (given : Given) (written : String) : Except UsageError Given :=
  if given.operands.length < level.operands then
    .ok { given with operands := given.operands ++ [written] }
  else .error (.unexpectedArgument written)

/-- Read the arguments of a level. After two dashes alone there are only operands. -/
def Level.read (level : Level) : (onlyOperands : Bool) → (waiting : Option OptionName) → Given →
    List String → Except UsageError LevelEnd
  | _, waiting, given, [] => do return .finished (← given.settle waiting)
  | true, waiting, given, argument :: rest => do
    level.read true none (← level.addOperand (← given.settle waiting) argument) rest
  | false, waiting, given, argument :: rest =>
    match argument.toList with
    | ['-', '-'] => level.read true waiting given rest
    | '-' :: c :: written => do
      let given ← given.settle waiting
      match ← if c = '-' then takeLong level.options given written
          else takeShort level.options given (c :: written) with
      | .help => return .help
      | .version => return .version
      | .next given waiting => level.read false waiting given rest
    | _ =>
      match waiting with
      | some option => do level.read false none (← given.put option (some argument)) rest
      | none =>
        if level.endsWithVerb then .ok (.verb given argument rest)
        else do level.read false none (← level.addOperand given argument) rest

/-! ## Putting a request together -/

def Given.need (given : Given) (option : OptionName) : Except UsageError String :=
  match given.value? option with
  | some value => .ok value
  | none => .error (.missingOption option)

/-- Where the schema comes from. The options that name a body need each other, but not the description
itself, when there is a file of its own for the schema. -/
def Given.source (given : Given) : Except UsageError SchemaSource := do
  if given.has .schema && given.has .openApi then throw (.conflict .schema .openApi)
  let namesBody := [.openApi, .path, .method, .response].any given.has
  if namesBody then
    discard (given.need .path)
    discard (given.need .method)
  match given.value? .schema with
  | some name => return .file name
  | none =>
    let name ← if namesBody then given.need .openApi else given.need .schema
    let target := if given.has .response then .response (given.value? .response) else .request
    return .description name ⟨← given.need .path, ← given.need .method, target⟩

def Given.operand (given : Given) : Except UsageError String :=
  match given.operands with
  | [] => .error .missingOperand
  | operand :: _ => .ok operand

/-- The depth that is given, or else the usual one. -/
def Given.depth (given : Given) (usual : Nat) : Nat := ((given.value? .maxDepth).bind word?).getD usual

def Given.task (given : Given) : Verb → Except UsageError Task
  | .validate => do
    let payload ← given.operand
    if payload.isEmpty then throw .emptyOperand
    return .validate payload { maxDepth := given.depth ({} : ValidateOptions).maxDepth }
  | .example =>
    return .example {
      requiredOnly := given.has .requiredOnly
      maxDepth := given.depth ({} : ExampleOptions).maxDepth }
  | .field => return .field (← given.operand)

/-- The job that the arguments before and after a verb describe. -/
def jobOf (before after : Given) (verb : Verb) : Except UsageError Job := do
  let shared (option : OptionName) := (after.value? option).or (before.value? option)
  return {
    task := ← after.task verb
    source := ← after.source
    layout := ((shared .layout).bind Layout.ofName?).getD .pretty
    output := shared .output }

/-- Only the names of verbs follow the request for help. -/
def helpFor : List String → Except UsageError Request
  | [] => .ok .help
  | [name] => if name = "help" ∨ (Verb.ofName? name).isSome then .ok .help else .error (.unknownVerb name)
  | _ :: name :: _ => .error (.unknownVerb name)

def ofVerb (before : Given) (written : String) (rest : List String) : Except UsageError Request := do
  if written = "help" then helpFor rest
  else
    match Verb.ofName? written with
    | none => throw (.unknownVerb written)
    | some verb =>
      match ← (Level.after verb).read false none {} rest with
      | .help => return .help
      | .version => return .version
      | .finished after => return .job (← jobOf before after verb)
      | .verb _ written _ => throw (.unexpectedArgument written)

def Request.ofArguments (arguments : List String) : Except UsageError Request := do
  match ← Level.leading.read false none {} arguments with
  | .help => return .help
  | .version => return .version
  | .finished _ => throw .missingVerb
  | .verb before written rest => ofVerb before written rest

end Schemata.Command
