import Schemata.Json.Basic

/-!
# Schemas of an API description

* `Endpoint` : a request or response body of an operation;
* `SchemaLookup` : the schema of such a body, or why there is none;
* `Endpoint.lookup` : the look-up in a description whose references are resolved.
-/

namespace Schemata

/-- The body of an operation that is meant; without a status it is the main response. -/
inductive BodyTarget where
  | request
  | response (status : Option String)
  deriving DecidableEq, Repr

/-- A body of an operation, which is a method of a path. -/
structure Endpoint where
  path : String
  method : String
  target : BodyTarget
  deriving DecidableEq, Repr

inductive SchemaLookup where
  | found (schema : Json)
  | unknownPath | unknownMethod | noRequestBody | noResponse
  /-- There is a body, but no content with a schema. -/
  | noJsonContent
  deriving DecidableEq

namespace SchemaLookup

def schema? : SchemaLookup → Option Json
  | found schema => some schema
  | _ => none

def text : SchemaLookup → String
  | found _ => "schema found"
  | unknownPath => "path is not declared in the document"
  | unknownMethod => "method is not declared for this path"
  | noRequestBody => "operation has no request body"
  | noResponse => "operation declares no matching response"
  | noJsonContent => "body declares no content schema"

end SchemaLookup

namespace Endpoint

/-- The schema of a body: that of JSON content, or else of some other JSON type, or else of the content
that comes first. -/
def contentSchema (body : Json) : SchemaLookup :=
  match (body.member? "content").bind Json.members? with
  | none => .noJsonContent
  | some content =>
    let json := content.lookup "application/json"
    let jsonLike := (content.find? fun entry => entry.1.endsWith "+json").map Prod.snd
    let media := (json.or jsonLike).or (content.head?.map Prod.snd)
    match media.bind (Json.member? "schema") with
    | some schema => .found schema
    | none => .noJsonContent

/-- The number that a key of responses writes, if it is the code of a success. A plus sign and leading
zeros do not count. -/
def successCode? (key : String) : Option Nat :=
  let digits := match key.toList with
    | '+' :: rest => rest
    | chars => chars
  if digits.isEmpty || !digits.all Char.isDigit then none
  else
    let code := digits.foldl (fun n c => 10 * n + (c.toNat - 48)) 0
    if 200 ≤ code ∧ code < 300 then some code else none

/-- The response with the lowest code, the first one of equal codes. -/
def lowest? : List (Nat × Json) → Option (Nat × Json)
  | [] => none
  | (code, response) :: rest =>
    match lowest? rest with
    | some (code', response') =>
      if code' < code then some (code', response') else some (code, response)
    | none => some (code, response)

/-- The main response: the success with the lowest code, or else the default. -/
def mainResponse? (responses : List (String × Json)) : Option Json :=
  let successes := responses.filterMap fun (key, response) =>
    (successCode? key).map fun code => (code, response)
  ((lowest? successes).map Prod.snd).or (responses.lookup "default")

def lookup (document : Json) (e : Endpoint) : SchemaLookup :=
  match (document.member? "paths").bind (Json.member? e.path) with
  | none => .unknownPath
  | some item =>
    match item.member? e.method.toLower with
    | none => .unknownMethod
    | some operation =>
      match e.target with
      | .request =>
        match operation.member? "requestBody" with
        | some body => contentSchema body
        | none => .noRequestBody
      | .response status =>
        let responses := (operation.member? "responses").bind Json.members?
        let response := responses.bind fun responses =>
          match status with
          | some status => responses.lookup status
          | none => mainResponse? responses
        match response with
        | some response => contentSchema response
        | none => .noResponse

def text (e : Endpoint) : String :=
  e.method.toUpper ++ " " ++ e.path ++
    match e.target with
    | .request => " (request)"
    | .response (some status) => " (response " ++ status ++ ")"
    | .response none => " (response)"

end Endpoint

end Schemata
