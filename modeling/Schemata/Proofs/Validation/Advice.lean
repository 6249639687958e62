import Mathlib.Data.List.Basic
import Schemata.Proofs.Validation.Ignored
import Schemata.Proofs.Validation.Visit

/-!
# What errors do not depend on

* `Rules.withoutAdvice` : the rules without what only warnings tell;
* `Node.errorsAt` : the errors that a node finds, wherever it stands and whatever the value is;
* `Node.respects_errorsAt` : they depend on the rules without advice, on the errors that the parts of the node find, and
  not on what it combines;
* `AdviceEdit` : a change of the description, of the deprecation, of whether further members are forbidden, or of what
  is not read;
* `Node.exists_compile_of_adviceEdits` : no number of such changes, at whatever nodes of a schema, changes the errors of
  a value.
-/

namespace Schemata

/-! ## Rules -/

namespace Rules

/-- The rules without what only warnings tell. -/
def withoutAdvice (rules : Rules) : Rules := { rules with description := none, deprecated := false }

theorem violations_withoutAdvice (rules : Rules) (path : FieldPath) (value : Json) :
    rules.withoutAdvice.violations path value = rules.violations path value := by
  cases value <;> rfl

theorem violations_eq_of_withoutAdvice {rules rules' : Rules} (h : rules.withoutAdvice = rules'.withoutAdvice)
    (path : FieldPath) (value : Json) : rules.violations path value = rules'.violations path value := by
  rw [← violations_withoutAdvice rules, h, violations_withoutAdvice]

def adviceKeywords : List String := ["description", "deprecated"]

theorem map_withoutAdvice_read {path : String} {object object' : Json}
    (h : ∀ keyword, keyword ∉ adviceKeywords → object'.member? keyword = object.member? keyword) :
    (read path object).map withoutAdvice = (read path object').map withoutAdvice := by
  have agree : ∀ keyword, keyword ∉ adviceKeywords → object.member? keyword = object'.member? keyword :=
    fun keyword hk => (h keyword hk).symm
  have hminimum : readBound path "minimum" "exclusiveMinimum" object =
      readBound path "minimum" "exclusiveMinimum" object' :=
    readBound_congr (agree _ (by decide)) (agree _ (by decide))
  have hmaximum : readBound path "maximum" "exclusiveMaximum" object =
      readBound path "maximum" "exclusiveMaximum" object' :=
    readBound_congr (agree _ (by decide)) (agree _ (by decide))
  unfold read
  simp only [readKind, readPattern, readText, readAllowed, readLength, readRequired, hminimum, hmaximum,
    agree "type" (by decide), agree "nullable" (by decide), agree "format" (by decide), agree "pattern" (by decide),
    agree "enum" (by decide), agree "minLength" (by decide), agree "maxLength" (by decide),
    agree "required" (by decide)]
  -- All steps are the same now, up to the last one.
  iterate 9 refine map_bind_congr_right fun _ => ?_
  rfl

end Rules

/-- The schema for further properties, if there is one. -/
def Additional.constrained? {α : Type} : Additional α → Option α
  | .constrained a => some a
  | .open | .forbidden => none

/-! ## Errors as a view -/

namespace Node

/-- The errors that the node finds, wherever it stands and whatever the value is. -/
def errorsAt (node : Node) (limit : Nat) (path : FieldPath) (value : Json) : List Violation :=
  Visit.errors limit ⟨path, node, value⟩

variable {limit : Nat} {path : FieldPath}

/-- What the parts of a value are found to violate, if it is known what each part of the node finds. -/
def errorsBelow (limit : Nat) (path : FieldPath)
    (properties : List (String × (Nat → FieldPath → Json → List Violation)))
    (items further : Option (Nat → FieldPath → Json → List Violation)) : Json → List Violation
  | .object members =>
    (properties.flatMap fun p => ((members.lookup p.1).map (p.2 limit (path ++ [.name p.1]))).getD []) ++
      (further.map fun find => (members.filter fun m => (properties.lookup m.1).isNone).flatMap fun m =>
        find limit (path ++ [.name m.1]) m.2).getD []
  | .array values =>
    (items.map fun find => (values.mapIdx fun i value => find limit (path ++ [.index i]) value).flatten).getD []
  | .string _ | .number _ | .bool _ | .null => []

theorem isNone_lookup_viewProperties {α : Type} (view : Node → α) (properties : List (String × Node)) (name : String) :
    ((viewProperties view properties).lookup name).isNone = (properties.lookup name).isNone := by
  rw [Bool.eq_iff_iff, Option.isNone_iff_eq_none, Option.isNone_iff_eq_none, Names.lookup_eq_none_iff,
    Names.lookup_eq_none_iff, viewProperties, List.map_map]
  rfl

theorem flatMap_errors_children (v : Visit) :
    v.children.flatMap (Visit.errors limit) =
      errorsBelow limit v.path (viewProperties errorsAt v.node.properties) (v.node.items.map errorsAt)
        (v.node.additional.map errorsAt).constrained? v.value := by
  obtain ⟨path, node, value⟩ := v
  cases value with
  | object members =>
    have hproperties : (node.properties.filterMap (Visit.ofProperty? path members)).flatMap (Visit.errors limit) =
        (viewProperties errorsAt node.properties).flatMap fun p =>
          ((members.lookup p.1).map (p.2 limit (path ++ [.name p.1]))).getD [] := by
      rw [List.filterMap_eq_flatMap_toList, List.flatMap_assoc, viewProperties, List.flatMap_map]
      refine List.flatMap_congr fun p _ => ?_
      unfold Visit.ofProperty?
      cases members.lookup p.1 with
      | none => rfl
      | some value => exact List.flatMap_singleton ..
    have hfurther : ∀ undeclared : List (String × Json),
        (Visit.ofAdditional path undeclared node.additional).flatMap (Visit.errors limit) =
          ((node.additional.map errorsAt).constrained?.map fun find =>
            undeclared.flatMap fun m => find limit (path ++ [.name m.1]) m.2).getD [] := by
      intro undeclared
      cases node.additional with
      | constrained child => exact List.flatMap_map ..
      | _ => rfl
    unfold Visit.children errorsBelow
    dsimp only
    rw [List.flatMap_append, hproperties, hfurther]
    simp only [isNone_lookup_viewProperties]
    rfl
  | array values =>
    unfold Visit.children errorsBelow
    dsimp only
    cases node.items with
    | none => rfl
    | some child =>
      rw [Visit.ofItems, Option.map_some, Option.map_some, Option.getD_some, List.mapIdx_eq_zipIdx_map,
        List.mapIdx_eq_zipIdx_map, List.flatMap_map]
      exact List.flatMap_def ..
  | _ => rfl

/-- **What errors depend on.** A node finds the same errors as another one everywhere if their rules are the same but
for their advice, and if their parts find the same errors. -/
theorem respects_errorsAt : Respects errorsAt Rules.withoutAdvice Additional.constrained? fun _ => () := by
  intro rules rules' properties properties' items items' additional additional' combinations combinations'
    hr hp hi ha _
  funext limit path value
  have hnullable : rules.nullable = rules'.nullable := (congrArg Rules.nullable hr :)
  have hfits : rules.fits value = rules'.fits value := (congrArg (fun rules : Rules => rules.fits value) hr :)
  unfold errorsAt
  by_cases hopen : Visit.Open limit ⟨path, schema rules properties items additional combinations, value⟩
  · have hopen' : Visit.Open limit ⟨path, schema rules' properties' items' additional' combinations', value⟩ :=
      ⟨hopen.within, rfl, fun h => hopen.unexcused ⟨h.1, hnullable.trans h.2⟩⟩
    rw [Visit.errors_of_open hopen, Visit.errors_of_open hopen', flatMap_errors_children, flatMap_errors_children]
    show rules.violations path value ++ (if rules.fits value then _ else _) =
      rules'.violations path value ++ if rules'.fits value then _ else _
    dsimp only [Node.properties, Node.items, Node.additional]
    simp only [Rules.violations_eq_of_withoutAdvice hr, hfits, hp, hi, ha]
  · have hopen' : ¬ Visit.Open limit ⟨path, schema rules' properties' items' additional' combinations', value⟩ :=
      fun h => hopen ⟨h.within, rfl, fun hn => h.unexcused ⟨hn.1, hnullable.symm.trans hn.2⟩⟩
    rw [Visit.errors_of_not_open hopen, Visit.errors_of_not_open hopen']

end Node

/-! ## Changes of what is not enforced -/

/-- A change of an object that errors do not depend on: of its advice, of whether it forbids further members, or of what
is not read for a validation. -/
inductive AdviceEdit : List (String × Json) → List (String × Json) → Prop
  | advice {members members'}
      (agree : ∀ name, name ∉ Rules.adviceKeywords → members'.lookup name = members.lookup name) :
      AdviceEdit members members'
  | closing {members members'}
      (change : (members.lookup "additionalProperties" = none ∧
          members'.lookup "additionalProperties" = some (.bool false)) ∨
        (members.lookup "additionalProperties" = some (.bool false) ∧
          members'.lookup "additionalProperties" = none))
      (agree : ∀ name, name ≠ "additionalProperties" → members'.lookup name = members.lookup name) :
      AdviceEdit members members'
  | unread {members members'}
      (agree : ∀ name ∈ Node.enforcedKeywords, members'.lookup name = members.lookup name) :
      AdviceEdit members members'

namespace Node

variable {members members' : List (String × Json)}

theorem map_errorsAt_compileAt_of_agree {path : String}
    (hrules : (Rules.read path (.object members)).map Rules.withoutAdvice =
      (Rules.read path (.object members')).map Rules.withoutAdvice)
    (hparts : ∀ name ∈ ["$ref", "properties", "items"], members'.lookup name = members.lookup name)
    (hadditional : ((compileAdditional path members).map fun a => (a.map errorsAt).constrained?) =
      (compileAdditional path members').map fun a => (a.map errorsAt).constrained?) :
    (compileAt path (.object members)).map errorsAt = (compileAt path (.object members')).map errorsAt := by
  refine map_compileAt_of_respects respects_errorsAt (hparts _ (by decide)).symm hrules ?_ ?_ hadditional rfl
  · rw [compileProperties_congr (hparts _ (by decide))]
  · rw [compileItems_congr (hparts _ (by decide))]

theorem map_errorsAt_compileAt_of_adviceEdit (h : AdviceEdit members members') (path : String) :
    (compileAt path (.object members)).map errorsAt = (compileAt path (.object members')).map errorsAt := by
  cases h with
  | advice agree =>
    have parts : ∀ name ∈ ["$ref", "properties", "items"], name ∉ Rules.adviceKeywords := by decide
    refine map_errorsAt_compileAt_of_agree (Rules.map_withoutAdvice_read agree)
      (fun name hname => agree name (parts name hname)) ?_
    rw [compileAdditional_congr (agree _ (by decide)).symm]
  | closing change agree =>
    have rules : ∀ name ∈ Rules.keywords, name ≠ "additionalProperties" := by decide
    have parts : ∀ name ∈ ["$ref", "properties", "items"], name ≠ "additionalProperties" := by decide
    refine map_errorsAt_compileAt_of_agree ?_ (fun name hname => agree name (parts name hname)) ?_
    · exact congrArg _ (Rules.read_congr (.of_agree fun name hname => (agree name (rules name hname)).symm))
    · rw [compileAdditional_eq, compileAdditional_eq]
      obtain ⟨free, closed⟩ | ⟨closed, free⟩ := change
      · rw [free, closed]
        rfl
      · rw [free, closed]
        rfl
  | unread agree =>
    have rules : ∀ name ∈ Rules.keywords, name ∈ enforcedKeywords := by decide
    have parts : ∀ name ∈ ["$ref", "properties", "items"], name ∈ enforcedKeywords := by decide
    refine map_errorsAt_compileAt_of_agree ?_ (fun name hname => agree name (parts name hname)) ?_
    · exact congrArg _ (Rules.read_congr (.of_agree fun name hname => (agree name (rules name hname)).symm))
    · rw [compileAdditional_congr (agree _ (by decide)).symm]

/-- **Advice makes no errors.** A schema that was read is still read after changes at any of its nodes that errors do
not depend on, and what it is read as finds the same errors in all values. -/
theorem exists_compile_of_adviceEdits {schema schema' : Json} {node : Node} (hc : compile schema = .ok node)
    (h : Relation.ReflTransGen (Json.AtNode AdviceEdit) schema schema') :
    ∃ node', compile schema' = .ok node' ∧
      ∀ options payload, (node'.validate options payload).errors = (node.validate options payload).errors := by
  have herrors : (compile schema).map errorsAt = (compile schema').map errorsAt :=
    map_compileAt_of_edits respects_errorsAt map_errorsAt_compileAt_of_adviceEdit h "#"
  obtain ⟨e, hs, -⟩ | ⟨node₁, node', hs, hs', hnode⟩ := cases_of_map_eq herrors
  · rw [hc] at hs
    cases hs
  · obtain rfl : node = node₁ := Except.ok.inj (hc.symm.trans hs)
    refine ⟨node', hs', fun options payload => ?_⟩
    have hfind := congrFun (congrFun (congrFun hnode options.maxDepth) []) payload
    exact hfind.symm

end Node

end Schemata
