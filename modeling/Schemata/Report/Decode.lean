import Schemata.Json.Decode
import Schemata.Report.Basic

/-!
# Reports from JSON

* `Violation.decode`, `Warning.decode`, `Report.decode` : what `toJson` writes, read back. A part that
  is `null` counts as absent.
-/

namespace Schemata

open Decode (fieldOr)

def ViolationKind.decode : Decoder ViolationKind := Decode.choice all name

def WarningKind.decode : Decoder WarningKind := Decode.choice all name

def Violation.decode : Decoder Violation := fun value => do
  let get ← Decode.record "ValidationError"
    [.of "field" false Decode.text, .of "path" false Decode.text, .of "message" false Decode.text,
      .of "kind" false ViolationKind.decode, .of "expected" true (Decode.optional Decode.value),
      .of "received" true (Decode.optional Decode.value),
      .of "fixSuggestion" true (Decode.optional Decode.text)] value
  return {
    field := ← fieldOr get "field" "" Decode.text
    path := ← fieldOr get "path" "" Decode.text
    message := ← fieldOr get "message" "" Decode.text
    kind := ← fieldOr get "kind" .custom ViolationKind.decode
    expected := ← fieldOr get "expected" none (Decode.optional Decode.value)
    received := ← fieldOr get "received" none (Decode.optional Decode.value)
    fix := ← fieldOr get "fixSuggestion" none (Decode.optional Decode.text) }

def Warning.decode : Decoder Warning := fun value => do
  let get ← Decode.record "ValidationWarning"
    [.of "field" false Decode.text, .of "kind" false WarningKind.decode,
      .of "suggestion" false Decode.text] value
  return {
    field := ← fieldOr get "field" "" Decode.text
    kind := ← fieldOr get "kind" .optional WarningKind.decode
    suggestion := ← fieldOr get "suggestion" "" Decode.text }

def Report.decode : Decoder Report := fun value => do
  let get ← Decode.record "ValidationResult"
    [.of "valid" false Decode.flag, .of "errors" false (Decode.items Violation.decode),
      .of "warnings" true (Decode.items Warning.decode), .of "summary" false Decode.text] value
  return {
    valid := ← fieldOr get "valid" false Decode.flag
    errors := ← fieldOr get "errors" [] (Decode.items Violation.decode)
    warnings := ← fieldOr get "warnings" [] (Decode.items Warning.decode)
    summary := ← fieldOr get "summary" "" Decode.text }

end Schemata
