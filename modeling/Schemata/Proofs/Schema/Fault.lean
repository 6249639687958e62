import Schemata.Proofs.Json.Pointer
import Schemata.Proofs.Schema.Congruence

/-!
# Where a schema is at fault

* `SchemaError.withPath` : the same error at another place;
* `Json.SchemaAt` : the schemas below a schema that are read with it, and the tokens that lead to them;
* `Node.Outcome` : a reading that has the same result wherever it stands, or fails at the same place below;
* `Node.Outcome.bind`, `Node.Outcome.descend` : such readings one after the other, and further down;
* `Rules.outcome_read`, `Node.outcome_compileAt` : rules and schemas are read so;
* `Node.ok_or_fault` : a schema that fails does so with the error of a schema that is read with it;
* `Node.compileAt_error_located` : so an error points at a schema that fails with it by itself.
-/

namespace Schemata

/-- The same error at another place. -/
def SchemaError.withPath (path : String) : SchemaError → SchemaError
  | notASchema _ found => notASchema path found
  | invalidKeyword _ keyword expected => invalidKeyword path keyword expected
  | invalidPattern _ source reason => invalidPattern path source reason
  | malformedReference _ => malformedReference path

namespace SchemaError

@[simp] theorem path_withPath (path : String) (e : SchemaError) : (e.withPath path).path = path := by
  cases e <;> rfl

@[simp] theorem withPath_withPath (path other : String) (e : SchemaError) :
    (e.withPath other).withPath path = e.withPath path := by
  cases e <;> rfl

end SchemaError

/-! ## Places -/

namespace Json

/-- Tokens lead from a schema to one that is read with it: itself, that of a declared property, of items or of further
properties, or one that lies so below any of them. -/
inductive SchemaAt : Json → List String → Json → Prop
  | here (schema) : SchemaAt schema [] schema
  | property {members properties name schema tokens part}
      (hp : members.lookup "properties" = some (.object properties)) (hn : properties.lookup name = some schema)
      (h : SchemaAt schema tokens part) : SchemaAt (.object members) ("properties" :: name :: tokens) part
  | items {members schema tokens part} (hi : members.lookup "items" = some schema) (h : SchemaAt schema tokens part) :
      SchemaAt (.object members) ("items" :: tokens) part
  | additional {members schema tokens part} (ha : members.lookup "additionalProperties" = some schema)
      (h : SchemaAt schema tokens part) : SchemaAt (.object members) ("additionalProperties" :: tokens) part

theorem atTokens?_cons (value : Json) (token : String) (rest : List String) :
    value.atTokens? (token :: rest) = (value.step? token).bind fun part => part.atTokens? rest := rfl

theorem SchemaAt.atTokens? {schema part : Json} {tokens : List String} (h : SchemaAt schema tokens part) :
    schema.atTokens? tokens = some part := by
  induction h with
  | here schema => rfl
  | property hp hn _ ih =>
    rw [atTokens?_cons, step?_name, hp, Option.bind_some, atTokens?_cons, step?_name, hn, Option.bind_some, ih]
  | items hi _ ih => rw [atTokens?_cons, step?_name, hi, Option.bind_some, ih]
  | additional ha _ ih => rw [atTokens?_cons, step?_name, ha, Option.bind_some, ih]

end Json

/-! ## Readings that may stand anywhere -/

namespace Node

/-- A reading for each place. It has one result wherever it stands; or it fails at its own place; or it fails at a place
below, with the error of the schema there. -/
inductive Outcome {α : Type} (schema : Json) (read : String → Except SchemaError α) : Prop
  | ok (a : α) (h : ∀ path, read path = .ok a)
  | here (e : SchemaError) (h : ∀ path, read path = .error (e.withPath path))
  | below (tokens : List String) (part : Json) (e : SchemaError) (hp : schema.SchemaAt tokens part)
      (hc : ∀ path, compileAt path part = .error (e.withPath path))
      (h : ∀ path, read path = .error (e.withPath (Pointer.append path tokens)))

namespace Outcome

variable {α β : Type} {schema : Json} {read : String → Except SchemaError α}

theorem bind {next : String → α → Except SchemaError β} (hx : Outcome schema read)
    (hf : ∀ a, Outcome schema fun path => next path a) : Outcome schema fun path => read path >>= next path := by
  cases hx with
  | ok a h =>
    have heq : (fun path => read path >>= next path) = fun path => next path a := by
      funext path
      rw [h, ok_bind]
    rw [heq]
    exact hf a
  | here e h => exact .here e fun path => by rw [h]; rfl
  | below tokens part e hp hc h => exact .below tokens part e hp hc fun path => by rw [h]; rfl

theorem pure (a : α) : Outcome schema fun _ => (Pure.pure a : Except SchemaError α) := .ok a fun _ => rfl

theorem invalid (keyword expected : String) :
    Outcome schema fun path => (Rules.invalid path keyword expected : Except SchemaError α) :=
  .here (.invalidKeyword "" keyword expected) fun _ => rfl

/-- A schema that lies below another one has there the outcome that it has by itself. -/
theorem descend {value : Json} (front : List String)
    (hstep : ∀ {tokens part}, value.SchemaAt tokens part → schema.SchemaAt (front ++ tokens) part)
    (h : Outcome value fun path => compileAt path value) :
    Outcome schema fun path => compileAt (Pointer.append path front) value := by
  cases h with
  | ok node h => exact .ok node fun path => h _
  | here e h =>
    have hp := hstep (.here value)
    rw [List.append_nil] at hp
    exact .below front value e hp h fun path => h _
  | below tokens part e hp hc h =>
    refine .below (front ++ tokens) part e (hstep hp) hc fun path => ?_
    rw [h, Pointer.append_append]

theorem ok_or_error (h : Outcome schema read) :
    (∃ a, ∀ path, read path = .ok a) ∨ ∀ path, ∃ e, read path = .error e := by
  cases h with
  | ok a h => exact .inl ⟨a, h⟩
  | here e h => exact .inr fun path => ⟨_, h path⟩
  | below _ _ e _ _ h => exact .inr fun path => ⟨_, h path⟩

end Outcome

end Node

/-! ## Rules -/

namespace Rules

open Node (Outcome)

variable {schema : Json} (object : Json)

theorem outcome_readTexts (keyword expected : String) (values : List Json) :
    Outcome schema fun path => readTexts path keyword expected values := by
  induction values with
  | nil => exact .ok [] fun _ => rfl
  | cons value rest ih =>
    cases value with
    | string text => exact .bind ih fun texts => .pure _
    | _ => exact .invalid keyword expected

theorem outcome_readKind : Outcome schema fun path => readKind path object := by
  unfold readKind
  cases object.member? "type" with
  | none => exact .ok _ fun _ => rfl
  | some value =>
    cases value with
    | string tag => exact .ok _ fun _ => rfl
    | array tags => exact .bind (outcome_readTexts "type" tagsExpected tags) fun names => .pure _
    | _ => exact .invalid "type" tagsExpected

theorem outcome_readText (keyword : String) : Outcome schema fun path => readText path keyword object := by
  unfold readText
  cases object.member? keyword with
  | none => exact .ok _ fun _ => rfl
  | some value =>
    cases value with
    | string text => exact .ok _ fun _ => rfl
    | _ => exact .invalid keyword "a string"

theorem outcome_readPattern : Outcome schema fun path => readPattern path object := by
  refine .bind (outcome_readText object "pattern") fun text => ?_
  cases text with
  | none => exact .pure none
  | some source =>
    dsimp only
    cases Pattern.enforced? source with
    | ok pattern => exact .ok pattern fun _ => rfl
    | error reason => exact .here (.invalidPattern "" source reason) fun _ => rfl

theorem outcome_readAllowed : Outcome schema fun path => readAllowed path object := by
  unfold readAllowed
  cases object.member? "enum" with
  | none => exact .ok _ fun _ => rfl
  | some value =>
    cases value with
    | array values => exact .ok _ fun _ => rfl
    | _ => exact .invalid "enum" "an array"

theorem outcome_readLength (keyword : String) : Outcome schema fun path => readLength path keyword object := by
  unfold readLength
  cases object.member? keyword with
  | none => exact .ok _ fun _ => rfl
  | some value =>
    cases value with
    | number n =>
      dsimp only
      cases lengthOf? n with
      | none => exact .invalid keyword "a non-negative integer"
      | some length => exact .ok _ fun _ => rfl
    | _ => exact .invalid keyword "a non-negative integer"

theorem outcome_readBound (inclusive exclusive : String) :
    Outcome schema fun path => readBound path inclusive exclusive object := by
  unfold readBound
  rcases object.member? inclusive with _ | (_ | _ | n | _ | _ | _)
  -- whatever is read behind the first keyword, the second one is read alike
  all_goals first
    | refine .bind (.pure _) fun limit => ?_
    | refine .bind (.invalid inclusive "a number") fun limit => ?_
  all_goals
    cases object.member? exclusive with
    | none => exact .pure _
    | some value =>
      cases value with
      | number n => exact .pure _
      | bool flag => exact .pure _
      | _ => exact .invalid exclusive "a number or a boolean"

theorem outcome_readRequired : Outcome schema fun path => readRequired path object := by
  unfold readRequired
  cases object.member? "required" with
  | none => exact .ok _ fun _ => rfl
  | some value =>
    cases value with
    | array names => exact outcome_readTexts "required" namesExpected names
    | bool flag => exact .ok _ fun _ => rfl
    | _ => exact .invalid "required" namesExpected

/-- The rules of an object are the same wherever it stands, and so is what is wrong with them. -/
theorem outcome_read : Outcome schema fun path => read path object := by
  unfold read
  refine .bind (outcome_readKind object) fun named => ?_
  refine .bind (outcome_readText object "format") fun format => ?_
  refine .bind (outcome_readPattern object) fun pattern => ?_
  refine .bind (outcome_readAllowed object) fun allowed => ?_
  refine .bind (outcome_readLength object "minLength") fun minLength => ?_
  refine .bind (outcome_readLength object "maxLength") fun maxLength => ?_
  refine .bind (outcome_readBound object "minimum" "exclusiveMinimum") fun minimum => ?_
  refine .bind (outcome_readBound object "maximum" "exclusiveMaximum") fun maximum => ?_
  exact .bind (outcome_readRequired object) fun required => .pure _

end Rules

/-! ## Parts -/

namespace Node

section Parts

variable {members : List (String × Json)}

theorem outcome_reference? (schema object : Json) : Outcome schema fun path => reference? path object := by
  unfold reference?
  cases object.member? "$ref" with
  | none => exact .ok _ fun _ => rfl
  | some value =>
    cases value with
    | string target => exact .ok _ fun _ => rfl
    | _ => exact .here (.malformedReference "") fun _ => rfl

theorem outcome_compileEach {properties : List (String × Json)}
    (hp : members.lookup "properties" = some (.object properties)) (hd : (properties.map Prod.fst).Nodup)
    {values : List (String × Json)} (hsub : values ⊆ properties)
    (h : ∀ m ∈ values, Outcome m.2 fun path => compileAt path m.2) :
    Outcome (.object members) fun path => compileEach (Pointer.child path "properties") values := by
  induction values with
  | nil => exact .ok [] fun _ => by rw [compileEach]
  | cons entry rest ih =>
    obtain ⟨name, value⟩ := entry
    obtain ⟨hhere, hrest⟩ := List.forall_mem_cons.1 h
    obtain ⟨hmem, hsub⟩ := List.cons_subset.1 hsub
    simp only [compileEach]
    refine .bind ?_ fun node => .bind (ih hsub hrest) fun nodes => .pure _
    exact .descend ["properties", name] (.property hp (Names.lookup_of_mem hd hmem)) hhere

theorem outcome_compileProperties (hd : (Json.object members).hasDistinctNames = true)
    (h : ∀ part, (Json.object members).HasPart part → Outcome part fun path => compileAt path part) :
    Outcome (.object members) fun path => compileProperties path members := by
  simp only [compileProperties_eq]
  cases hl : members.lookup "properties" with
  | none => exact .ok [] fun _ => rfl
  | some value =>
    cases value with
    | object properties =>
      have hpart : (Json.object members).HasPart (.object properties) := .of_lookup hl
      have hnames := (Json.hasDistinctNames_object.1 (hpart.hasDistinctNames hd)).1
      exact outcome_compileEach hl hnames (List.Subset.refl _) fun m hm => h m.2 (.trans hpart (.member hm))
    | _ => exact .invalid "properties" "an object"

theorem outcome_compileItems
    (h : ∀ part, (Json.object members).HasPart part → Outcome part fun path => compileAt path part) :
    Outcome (.object members) fun path => compileItems path members := by
  simp only [compileItems_eq]
  cases hl : members.lookup "items" with
  | none => exact .ok none fun _ => rfl
  | some value =>
    cases value with
    | object inner =>
      refine .bind ?_ fun node => .pure _
      exact .descend ["items"] (.items hl) (h _ (.of_lookup hl))
    | bool b => exact .ok _ fun _ => rfl
    | array schemas => exact .ok _ fun _ => rfl
    | _ => exact .invalid "items" "a schema object or boolean"

theorem outcome_compileAdditional
    (h : ∀ part, (Json.object members).HasPart part → Outcome part fun path => compileAt path part) :
    Outcome (.object members) fun path => compileAdditional path members := by
  simp only [compileAdditional_eq]
  cases hl : members.lookup "additionalProperties" with
  | none => exact .ok .open fun _ => rfl
  | some value =>
    cases value with
    | object inner =>
      refine .bind ?_ fun node => .pure _
      exact .descend ["additionalProperties"] (.additional hl) (h _ (.of_lookup hl))
    | bool b => cases b <;> exact .ok _ fun _ => rfl
    | _ => exact .invalid "additionalProperties" "a boolean or a schema object"

theorem compileValid_eq_filterMap {values : List Json}
    (h : ∀ value ∈ values, Outcome value fun path => compileAt path value) (path : String) (i : Nat) :
    compileValid path i values = values.filterMap fun value => (compile value).toOption := by
  induction values generalizing i with
  | nil => rw [compileValid, List.filterMap_nil]
  | cons value rest ih =>
    obtain ⟨hhere, hrest⟩ := List.forall_mem_cons.1 h
    rw [compileValid, ih hrest, List.filterMap_cons, compile]
    rcases hhere.ok_or_error with ⟨node, hok⟩ | herror
    · rw [hok, hok]
      rfl
    · obtain ⟨e, he⟩ := herror (Pointer.child path (toString i))
      obtain ⟨e', he'⟩ := herror "#"
      rw [he, he']
      rfl

theorem compileBranches_eq_of_outcome
    (h : ∀ part, (Json.object members).HasPart part → Outcome part fun path => compileAt path part)
    (combinator : Combinator) (path other : String) :
    compileBranches path combinator members = compileBranches other combinator members := by
  rw [compileBranches_eq, compileBranches_eq]
  cases hl : members.lookup combinator.keyword with
  | none => rfl
  | some value =>
    cases value with
    | array branches =>
      have hbranches := compileValid_eq_filterMap fun branch hb => h branch (.trans (.of_lookup hl) (.item hb))
      simp only [Option.elim_some, hbranches]
    | _ => rfl

theorem compileNot_eq_of_outcome
    (h : ∀ part, (Json.object members).HasPart part → Outcome part fun path => compileAt path part)
    (path other : String) : compileNot path members = compileNot other members := by
  rw [compileNot_eq, compileNot_eq]
  cases hl : members.lookup "not" with
  | none => rfl
  | some value =>
    simp only [Option.elim_some]
    rcases (h value (.of_lookup hl)).ok_or_error with ⟨node, hok⟩ | herror
    · rw [hok, hok]
    · obtain ⟨e, he⟩ := herror (Pointer.child path "not")
      obtain ⟨e', he'⟩ := herror (Pointer.child other "not")
      rw [he, he']

theorem compileCombinations_eq_of_outcome
    (h : ∀ part, (Json.object members).HasPart part → Outcome part fun path => compileAt path part)
    (path other : String) : compileCombinations path members = compileCombinations other members := by
  unfold compileCombinations
  rw [compileBranches_eq_of_outcome h .allOf path other, compileBranches_eq_of_outcome h .anyOf path other,
    compileBranches_eq_of_outcome h .oneOf path other, compileNot_eq_of_outcome h path other]

end Parts

/-- **A schema is read as the same node wherever it stands, or fails at the same place below.** -/
theorem outcome_compileAt (schema : Json) (hd : schema.hasDistinctNames = true) :
    Outcome schema fun path => compileAt path schema := by
  cases schema with
  | bool b => exact .ok any fun _ => by rw [compileAt]
  | object members =>
    have hparts : ∀ part, (Json.object members).HasPart part → Outcome part fun path => compileAt path part := by
      intro part hp
      have := hp.sizeOf_lt
      exact outcome_compileAt part (hp.hasDistinctNames hd)
    simp only [compileAt]
    refine .bind (outcome_reference? _ _) fun ref => ?_
    cases ref with
    | some target => exact .pure _
    | none =>
      refine .bind (Rules.outcome_read _) fun rules => ?_
      refine .bind (outcome_compileProperties hd hparts) fun properties => ?_
      refine .bind (outcome_compileItems hparts) fun items => ?_
      refine .bind (outcome_compileAdditional hparts) fun additional => ?_
      exact .ok (.schema rules properties items additional (compileCombinations "#" members)) fun path =>
        congrArg (fun combinations => Except.ok (schema rules properties items additional combinations))
          (compileCombinations_eq_of_outcome hparts path "#")
  | null => exact .here (.notASchema "" "null") fun _ => by rw [compileAt.eq_def]; rfl
  | number n => exact .here (.notASchema "" (Json.kindName (.number n))) fun _ => by rw [compileAt.eq_def]; rfl
  | string s => exact .here (.notASchema "" "string") fun _ => by rw [compileAt.eq_def]; rfl
  | array items => exact .here (.notASchema "" "array") fun _ => by rw [compileAt.eq_def]; rfl
termination_by sizeOf schema

/-- A schema that fails does so with the error of a schema that is read with it. -/
theorem ok_or_fault (schema : Json) (hd : schema.hasDistinctNames = true) :
    (∃ node, ∀ path, compileAt path schema = .ok node) ∨
      ∃ tokens part, ∃ e : SchemaError, schema.SchemaAt tokens part ∧
        (∀ path, compileAt path part = .error (e.withPath path)) ∧
        ∀ path, compileAt path schema = .error (e.withPath (Pointer.append path tokens)) := by
  cases outcome_compileAt schema hd with
  | ok node h => exact .inl ⟨node, h⟩
  | here e h => exact .inr ⟨[], schema, e, .here schema, h, h⟩
  | below tokens part e hp hc h => exact .inr ⟨tokens, part, e, hp, hc, h⟩

/-- **An error points at a schema that fails with it by itself.** What follows the place of the whole schema in the path
of an error is a pointer. It leads to a part that is reached through properties, items and further properties only, and
this part, read as a whole schema, fails with the same error at its own place. A schema that can be read is the same
node at every place. -/
theorem compileAt_error_located {schema : Json} (hd : schema.hasDistinctNames = true) (place : String) :
    (∀ e, compileAt place schema = .error e →
      ∃ pointer tokens part, e.path = place ++ pointer ∧ Pointer.tokens? pointer = some tokens ∧
        schema.atPointer? pointer = some part ∧ schema.SchemaAt tokens part ∧
        compileAt "#" part = .error (e.withPath "#")) ∧
    ∀ node, compileAt place schema = .ok node → ∀ other, compileAt other schema = .ok node := by
  rcases ok_or_fault schema hd with ⟨node, h⟩ | ⟨tokens, part, e, hp, hc, h⟩
  · refine ⟨fun e he => ?_, fun found hf other => ?_⟩
    · rw [h] at he
      cases he
    · rw [h, ← hf, h]
  · refine ⟨fun found he => ?_, fun node hn => ?_⟩
    · rw [h] at he
      obtain rfl := Except.error.inj he
      have ht : Pointer.tokens? (Pointer.append "" tokens) = some tokens :=
        Pointer.tokens?_append Pointer.tokens?_empty tokens
      refine ⟨Pointer.append "" tokens, tokens, part, ?_, ht, ?_, hp, ?_⟩
      · rw [SchemaError.path_withPath, Pointer.append_eq]
      · rw [Json.atPointer?, ht, Option.bind_some, hp.atTokens?]
      · rw [hc, SchemaError.withPath_withPath]
    · rw [h] at hn
      cases hn

/-- A list under a name with a slash, whose items ask for a negative length. -/
def negativeSchema : Json :=
  .object [
    ("properties", .object [
      ("ok", .object [("type", .string "string")]),
      ("a/b", .object [("items", .object [("minLength", .number (.ofInt64 (-1)))])])])]

theorem compileAt_error_located_negative :
    negativeSchema.hasDistinctNames = true ∧
      compileAt "/s" negativeSchema =
        .error (.invalidKeyword "/s/properties/a~1b/items" "minLength" "a non-negative integer") ∧
      ∃ pointer tokens part, "/s/properties/a~1b/items" = "/s" ++ pointer ∧ Pointer.tokens? pointer = some tokens ∧
        negativeSchema.atPointer? pointer = some part ∧ negativeSchema.SchemaAt tokens part ∧
        compileAt "#" part = .error (.invalidKeyword "#" "minLength" "a non-negative integer") := by
  have hd : negativeSchema.hasDistinctNames = true := by decide
  have herror : compileAt "/s" negativeSchema =
      .error (.invalidKeyword "/s/properties/a~1b/items" "minLength" "a non-negative integer") := by rfl
  exact ⟨hd, herror, (compileAt_error_located hd "/s").1 _ herror⟩

end Node

end Schemata
