import Schemata.Example.Basic
import Schemata.Json.Decode
import Schemata.Validation.Basic

/-!
# Options as JSON

* `ValidateOptions.toJson`, `ValidateOptions.decode`, and the same for `ExampleOptions`. Options that
  are not given have their defaults.
-/

namespace Schemata

open Decode (fieldOr)

namespace ValidateOptions

def toJson (options : ValidateOptions) : Json := .object [("max-depth", .ofNat options.maxDepth)]

def decode : Decoder ValidateOptions := fun value => do
  let get ← Decode.record "ValidateOptions" [.of "max-depth" true Decode.word] value
  return { maxDepth := ← fieldOr get "max-depth" 64 Decode.word }

end ValidateOptions

namespace ExampleOptions

def toJson (options : ExampleOptions) : Json :=
  .object [("required-only", .bool options.requiredOnly), ("max-depth", .ofNat options.maxDepth)]

def decode : Decoder ExampleOptions := fun value => do
  let get ← Decode.record "ExampleOptions"
    [.of "required-only" true Decode.flag, .of "max-depth" true Decode.word] value
  return {
    requiredOnly := ← fieldOr get "required-only" false Decode.flag
    maxDepth := ← fieldOr get "max-depth" 8 Decode.word }

end ExampleOptions

end Schemata
