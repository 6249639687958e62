import Schemata.Proofs.Endpoint.Response

/-!
# The answers of a look-up in a description

* `Endpoint.operation?` : the operation of a path and a method;
* `Endpoint.SelectsIn`, `Endpoint.Selects` : the body that is meant, in an operation and in a description;
* `Endpoint.lookup_of_selects` : the answer is about the content of this body;
* `Endpoint.exists_selects` : that it has a schema, or none, is answered only if there is one;
* `Endpoint.lookup_main` : what is answered for the main response;
* `Endpoint.lookup_content` : when a schema is found, and when there is said to be none.
-/

namespace Schemata

namespace Endpoint

/-! ## The body that is meant -/

def operation? (document : Json) (path method : String) : Option Json :=
  ((document.member? "paths").bind (Json.member? path)).bind (Json.member? method.toLower)

/-- The body of an operation that is meant. -/
inductive SelectsIn (operation : Json) : BodyTarget → Json → Prop
  | request {body} (there : operation.member? "requestBody" = some body) : SelectsIn operation .request body
  | status {responses status body} (declared : operation.member? "responses" = some (.object responses))
      (there : responses.lookup status = some body) : SelectsIn operation (.response (some status)) body
  | main {responses body} (declared : operation.member? "responses" = some (.object responses))
      (there : IsMain responses body) : SelectsIn operation (.response none) body

/-- The body of a description that is meant. -/
def Selects (document : Json) (e : Endpoint) (body : Json) : Prop :=
  ∃ operation, operation? document e.path e.method = some operation ∧ SelectsIn operation e.target body

def body? (operation : Json) : BodyTarget → Option Json
  | .request => operation.member? "requestBody"
  | .response status =>
    ((operation.member? "responses").bind Json.members?).bind fun responses =>
      match status with
      | some status => responses.lookup status
      | none => mainResponse? responses

/-- The answer if an operation has no such body. -/
def missing : BodyTarget → SchemaLookup
  | .request => .noRequestBody
  | .response _ => .noResponse

theorem body?_eq_some_iff {operation body : Json} {target : BodyTarget} :
    body? operation target = some body ↔ SelectsIn operation target body := by
  constructor
  · intro h
    cases target with
    | request => exact .request h
    | response status =>
      obtain ⟨responses, hresponses, hbody⟩ := Option.bind_eq_some_iff.1 h
      have hdeclared := bind_members?_eq_some_iff.1 hresponses
      cases status with
      | some status => exact .status hdeclared hbody
      | none => exact .main hdeclared (mainResponse?_eq_some_iff.1 hbody)
  · intro h
    cases h with
    | request there => exact there
    | status declared there =>
      rw [body?, declared]
      exact there
    | main declared there =>
      rw [body?, declared]
      exact mainResponse?_eq_some_iff.2 there

theorem lookup_of_operation? {document operation : Json} {e : Endpoint}
    (h : operation? document e.path e.method = some operation) :
    lookup document e = ((body? operation e.target).map contentSchema).getD (missing e.target) := by
  obtain ⟨item, hitem, hoperation⟩ := Option.bind_eq_some_iff.1 h
  unfold lookup
  rw [hitem]
  dsimp only
  rw [hoperation]
  dsimp only
  cases e.target with
  | request =>
    dsimp only [body?, missing]
    cases operation.member? "requestBody" <;> rfl
  | response status =>
    dsimp only [body?, missing]
    cases ((operation.member? "responses").bind Json.members?).bind _ <;> rfl

/-- The answer is about the content of the body that is meant. -/
theorem lookup_of_selects {document body : Json} {e : Endpoint} (h : Selects document e body) :
    lookup document e = contentSchema body := by
  obtain ⟨operation, hoperation, hselects⟩ := h
  rw [lookup_of_operation? hoperation, body?_eq_some_iff.2 hselects]
  rfl

theorem Selects.unique {document body body' : Json} {e : Endpoint} (h : Selects document e body)
    (h' : Selects document e body') : body = body' := by
  obtain ⟨operation, hoperation, hselects⟩ := h
  obtain ⟨operation', hoperation', hselects'⟩ := h'
  obtain rfl := Option.some.inj (hoperation.symm.trans hoperation')
  exact Option.some.inj ((body?_eq_some_iff.2 hselects).symm.trans (body?_eq_some_iff.2 hselects'))

theorem lookup_of_operation?_eq_none {document : Json} {e : Endpoint}
    (h : operation? document e.path e.method = none) :
    lookup document e = .unknownPath ∨ lookup document e = .unknownMethod := by
  unfold lookup
  cases hitem : (document.member? "paths").bind (Json.member? e.path) with
  | none => exact .inl rfl
  | some item =>
    have hmethod : item.member? e.method.toLower = none := by
      rw [operation?, hitem] at h
      exact h
    dsimp only
    rw [hmethod]
    exact .inr rfl

theorem exists_selects {document : Json} {e : Endpoint}
    (h : lookup document e = .noJsonContent ∨ ∃ schema, lookup document e = .found schema) :
    ∃ body, Selects document e body := by
  cases hoperation : operation? document e.path e.method with
  | none =>
    rcases lookup_of_operation?_eq_none hoperation with hanswer | hanswer
    all_goals
      rw [hanswer] at h
      rcases h with h | ⟨schema, h⟩ <;> cases h
  | some operation =>
    cases hbody : body? operation e.target with
    | some body => exact ⟨body, operation, hoperation, body?_eq_some_iff.1 hbody⟩
    | none =>
      rw [lookup_of_operation? hoperation, hbody] at h
      cases htarget : e.target
      all_goals
        rw [htarget] at h
        rcases h with h | ⟨schema, h⟩ <;> cases h

/-! ## The main response -/

section Main

variable {document operation : Json} {path method : String} {responses : List (String × Json)}

theorem lookup_response (ho : operation? document path method = some operation)
    (hr : operation.member? "responses" = some (.object responses)) :
    lookup document ⟨path, method, .response none⟩ =
      ((mainResponse? responses).map contentSchema).getD .noResponse := by
  have heq : lookup document ⟨path, method, .response none⟩ = _ := lookup_of_operation? ho
  rw [heq]
  dsimp only [body?, missing]
  rw [hr]
  rfl

/-- **The main response of an operation.** Where an operation declares responses, the look-up without a status answers
with the schema of the main one: the success with the lowest code, the first one of equal codes, or the default if there
is no success. There is a main one if there is a success or a default, and otherwise the answer is that there is no
response. A schema that is found is that of a media type of the main one. In a description that declares the same
responses in another order the answer is the same, if no two successes have the same code; their names are distinct, as
those of any object are that is read. -/
theorem lookup_main (ho : operation? document path method = some operation)
    (hr : operation.member? "responses" = some (.object responses)) :
    (∀ response, IsMain responses response →
      lookup document ⟨path, method, .response none⟩ = contentSchema response) ∧
    (((∃ entry ∈ responses, ∃ code, IsSuccess entry.1 code) ∨ ∃ response, responses.lookup "default" = some response) →
      ∃ response, IsMain responses response) ∧
    (lookup document ⟨path, method, .response none⟩ = .noResponse ↔
      (∀ entry ∈ responses, ∀ code, ¬ IsSuccess entry.1 code) ∧ responses.lookup "default" = none) ∧
    (∀ schema, lookup document ⟨path, method, .response none⟩ = .found schema →
      ∃ response media, IsMain responses response ∧ Declares response media ∧ media.member? "schema" = some schema) ∧
    ∀ document' operation' responses', operation? document' path method = some operation' →
      operation'.member? "responses" = some (.object responses') → responses.Perm responses' →
      (responses.map Prod.fst).Nodup →
      (responses.Pairwise fun a b => ∀ code, IsSuccess a.1 code → ¬ IsSuccess b.1 code) →
      lookup document' ⟨path, method, .response none⟩ = lookup document ⟨path, method, .response none⟩ := by
  have hresponse := lookup_response ho hr
  refine ⟨?_, exists_isMain, ?_, ?_, ?_⟩
  · intro response h
    exact lookup_of_selects ⟨operation, ho, .main hr h⟩
  · rw [hresponse, ← mainResponse?_eq_none_iff]
    cases mainResponse? responses with
    | none => exact ⟨fun _ => rfl, fun _ => rfl⟩
    | some response => exact ⟨fun h => absurd h (contentSchema_ne_noResponse response), nofun⟩
  · intro schema h
    rw [hresponse] at h
    cases hmain : mainResponse? responses with
    | none =>
      rw [hmain] at h
      cases h
    | some response =>
      rw [hmain] at h
      obtain ⟨media, hmedia, hschema⟩ := contentSchema_eq_found_iff.1 h
      exact ⟨response, media, mainResponse?_eq_some_iff.1 hmain, hmedia.declares, hschema⟩
  · intro document' operation' responses' ho' hr' hp hnames hcodes
    rw [hresponse, lookup_response ho' hr', mainResponse?_perm hnames hcodes hp]

end Main

def jsonBody (kind : String) : Json :=
  .object [("content", .object [("application/json", .object [("schema", .object [("type", .string kind)])])])]

/-- A description with one operation. -/
def ordersDocument (responses : List (String × Json)) : Json :=
  .object [("paths", .object [("/orders", .object [("get", .object [("responses", .object responses)])])])]

/-- The lowest success is written with a sign, and is neither the first nor the last one declared. -/
def ordersResponses : List (String × Json) :=
  [("default", jsonBody "null"), ("0204", jsonBody "string"), ("+201", jsonBody "array"), ("2XX", jsonBody "number"),
    ("299", jsonBody "object")]

theorem pairwise_ordersResponses :
    ordersResponses.Pairwise fun a b => ∀ code, IsSuccess a.1 code → ¬ IsSuccess b.1 code := by
  have hdefault : successCode? "default" = none := rfl
  have hzero : successCode? "0204" = some 204 := rfl
  have hplus : successCode? "+201" = some 201 := rfl
  have hrange : successCode? "2XX" = none := rfl
  have hlast : successCode? "299" = some 299 := rfl
  simp [ordersResponses, ← successCode?_eq_some_iff, hdefault, hzero, hplus, hrange, hlast]

theorem lookup_main_orders :
    IsMain ordersResponses (jsonBody "array") ∧
      lookup (ordersDocument ordersResponses) ⟨"/orders", "GET", .response none⟩ =
        .found (.object [("type", .string "array")]) ∧
      (ordersResponses.map Prod.fst).Nodup ∧
      lookup (ordersDocument ordersResponses.reverse) ⟨"/orders", "GET", .response none⟩ =
        .found (.object [("type", .string "array")]) := by
  have hget : "GET".toLower = "get" := by decide +kernel
  have hoperation : ∀ responses, operation? (ordersDocument responses) "/orders" "GET" =
      some (.object [("responses", .object responses)]) := by
    intro responses
    rw [operation?, hget]
    rfl
  have hmain : IsMain ordersResponses (jsonBody "array") := mainResponse?_eq_some_iff.1 rfl
  have hnames : (ordersResponses.map Prod.fst).Nodup := by decide
  obtain ⟨hanswer, -, -, -, horder⟩ := lookup_main (hoperation ordersResponses) rfl
  have hfirst : lookup (ordersDocument ordersResponses) ⟨"/orders", "GET", .response none⟩ =
      .found (.object [("type", .string "array")]) := hanswer _ hmain
  have hsecond := horder _ _ _ (hoperation ordersResponses.reverse) rfl ordersResponses.reverse_perm.symm hnames
    pairwise_ordersResponses
  exact ⟨hmain, hfirst, hnames, hsecond.trans hfirst⟩

/-! ## The schema of the body -/

theorem lookup_eq_found_iff {document body schema : Json} {e : Endpoint} (h : Selects document e body) :
    lookup document e = .found schema ↔ ∃ media, Prefers body media ∧ media.member? "schema" = some schema := by
  rw [lookup_of_selects h, contentSchema_eq_found_iff]

theorem lookup_eq_noJsonContent_iff {document body : Json} {e : Endpoint} (h : Selects document e body) :
    lookup document e = .noJsonContent ↔ ∀ media, Prefers body media → media.member? "schema" = none := by
  rw [lookup_of_selects h, contentSchema_eq_noJsonContent_iff]

/-- **The schema of the body that is meant.** That there is no schema is answered if and only if there is such a body,
and the media type that it prefers has none, or it declares no media type; and a schema is found if and only if it is
that of the media type that the body prefers. The other media types are not asked: so the first answer means that no
media type has a schema just if the one that the body prefers has a schema wherever any has. -/
theorem lookup_content (document : Json) (e : Endpoint) :
    (lookup document e = .noJsonContent ↔
      ∃ body, Selects document e body ∧ ∀ media, Prefers body media → media.member? "schema" = none) ∧
    (∀ schema, lookup document e = .found schema ↔
      ∃ body media, Selects document e body ∧ Prefers body media ∧ media.member? "schema" = some schema) ∧
    ∀ body, Selects document e body →
      ((lookup document e = .noJsonContent ↔ ∀ media, Declares body media → media.member? "schema" = none) ↔
        ((∃ media, Declares body media ∧ media.member? "schema" ≠ none) →
          ∃ media, Prefers body media ∧ media.member? "schema" ≠ none)) := by
  refine ⟨⟨?_, ?_⟩, fun schema => ⟨?_, ?_⟩, ?_⟩
  · intro h
    obtain ⟨body, hbody⟩ := exists_selects (.inl h)
    exact ⟨body, hbody, (lookup_eq_noJsonContent_iff hbody).1 h⟩
  · rintro ⟨body, hbody, h⟩
    exact (lookup_eq_noJsonContent_iff hbody).2 h
  · intro h
    obtain ⟨body, hbody⟩ := exists_selects (.inr ⟨schema, h⟩)
    obtain ⟨media, hmedia⟩ := (lookup_eq_found_iff hbody).1 h
    exact ⟨body, media, hbody, hmedia⟩
  · rintro ⟨body, media, hbody, hmedia⟩
    exact (lookup_eq_found_iff hbody).2 ⟨media, hmedia⟩
  · intro body hbody
    rw [lookup_of_selects hbody]
    exact contentSchema_tells_iff

/-- Of two types that are written as JSON, only the second one has a schema. -/
def silentBody : Json :=
  .object [("content", .object [
    ("application/problem+json", .object []),
    ("application/hal+json", .object [("schema", .object [("type", .string "object")])])])]

theorem selects_silentBody :
    Selects (ordersDocument [("200", silentBody)]) ⟨"/orders", "get", .response none⟩ silentBody := by
  have hget : "get".toLower = "get" := by decide +kernel
  refine ⟨.object [("responses", .object [("200", silentBody)])], ?_, .main rfl (mainResponse?_eq_some_iff.1 rfl)⟩
  rw [operation?, hget]
  rfl

theorem prefers_silentBody : Prefers silentBody (.object []) :=
  media?_eq_some_iff.1 (by decide +kernel)

theorem member?_of_prefers_silentBody {media : Json} (h : Prefers silentBody media) :
    media.member? "schema" = none := by
  rw [← prefers_silentBody.unique h]
  rfl

theorem declares_silentBody : Declares silentBody (.object [("schema", .object [("type", .string "object")])]) :=
  ⟨_, "application/hal+json", rfl, List.mem_cons_of_mem _ (List.mem_cons_self ..)⟩

theorem lookup_content_silent :
    Selects (ordersDocument [("200", silentBody)]) ⟨"/orders", "get", .response none⟩ silentBody ∧
      lookup (ordersDocument [("200", silentBody)]) ⟨"/orders", "get", .response none⟩ = .noJsonContent ∧
      ¬ (lookup (ordersDocument [("200", silentBody)]) ⟨"/orders", "get", .response none⟩ = .noJsonContent ↔
        ∀ media, Declares silentBody media → media.member? "schema" = none) := by
  obtain ⟨hanswer, -, htells⟩ :=
    lookup_content (ordersDocument [("200", silentBody)]) ⟨"/orders", "get", .response none⟩
  have hnone := hanswer.2 ⟨silentBody, selects_silentBody, fun _ => member?_of_prefers_silentBody⟩
  refine ⟨selects_silentBody, hnone, fun htold => ?_⟩
  obtain ⟨media, hprefers, hschema⟩ := (htells silentBody selects_silentBody).1 htold ⟨_, declares_silentBody, nofun⟩
  exact hschema (member?_of_prefers_silentBody hprefers)

/-- The look-up answers that there is no schema, though a media type of the body has one. -/
theorem not_told_of_silentBody :
    lookup (ordersDocument [("200", silentBody)]) ⟨"/orders", "get", .response none⟩ = .noJsonContent ∧
      ¬ (lookup (ordersDocument [("200", silentBody)]) ⟨"/orders", "get", .response none⟩ = .noJsonContent ↔
        ∃ body, Selects (ordersDocument [("200", silentBody)]) ⟨"/orders", "get", .response none⟩ body ∧
          ∀ media, Declares body media → media.member? "schema" = none) := by
  have hanswer : lookup (ordersDocument [("200", silentBody)]) ⟨"/orders", "get", .response none⟩ = .noJsonContent :=
    (lookup_eq_noJsonContent_iff selects_silentBody).2 fun _ => member?_of_prefers_silentBody
  refine ⟨hanswer, fun htold => ?_⟩
  obtain ⟨body, hbody, hall⟩ := htold.1 hanswer
  rw [← selects_silentBody.unique hbody] at hall
  cases hall _ declares_silentBody

end Endpoint

end Schemata
