import Schemata.Proofs.Example.Parts
import Schemata.Proofs.Schema.Normal
import Schemata.Proofs.Validation.Depth

/-!
# Examples are valid

* `Node.At` : the nodes at a depth below a node;
* `Node.Feasible` : what a schema must be like for its example to be valid;
* `Node.child_of_step_object`, `Node.child_of_step_array` : a step down from an example leads to that of a child;
* `Node.errors_exampleAt` : no example at a depth has errors, wherever it stands;
* `Node.toExample_valid` : the example of a feasible schema is valid.
-/

namespace Schemata

namespace Node

/-! ## Effective kinds -/

theorem effectiveKind?_of_kind {node : Node} {kind : Kind} (h : node.rules.kind = some kind)
    (hk : kind.isUnknown = false) : node.effectiveKind? = some kind := by
  unfold effectiveKind?
  dsimp only
  rw [h]
  cases kind <;> first | rfl | cases hk

theorem fits_of_effectiveKind? {node : Node} {value : Json}
    (h : ∀ kind, node.effectiveKind? = some kind → kind.accepts value = true) :
    node.rules.fits value = true := by
  unfold Rules.fits
  cases hk : node.rules.kind with
  | none => rfl
  | some kind =>
    by_cases hu : kind.isUnknown = true
    · cases kind <;> first | rfl | cases hu
    · exact h kind (effectiveKind?_of_kind hk (Bool.eq_false_iff.2 hu))

/-! ## Feasible schemas -/

/-- A node lies at a depth below another one. -/
inductive At (root : Node) : Nat → Node → Prop
  | root : At root 0 root
  | child {depth node child} (above : At root depth node) (h : node.Child child) : At root (depth + 1) child

/-- The node has a first allowed value, or speaks about values without parts. -/
def IsLeaf (node : Node) : Prop :=
  (∃ value rest, node.rules.allowed = some (value :: rest)) ∨
    node.effectiveKind? ∈ [some .string, some .number, some .integer, some .boolean, some .null]

/-- What a schema must be like for its example to be valid. It combines no schemas. Each leaf takes its own
example. No other node has an empty list of allowed values. An object that constrains further properties declares
all that it requires, and an object that requires something is not so deep that it stays empty. -/
structure Feasible (root : Node) (options : ExampleOptions) (limits : ValidateOptions) : Prop where
  plain : ∀ {depth node}, root.At depth node → node.combinations = []
  leaves : ∀ {depth node}, root.At depth node → node.IsLeaf →
    (node.validate limits (node.toExample options)).valid = true
  allowed : ∀ {depth node}, root.At depth node →
    node.effectiveKind? ∈ [some .object, some .array, none] → node.rules.allowed ≠ some []
  declared : ∀ {depth node child}, root.At depth node → node.effectiveKind? = some .object →
    node.additional = .constrained child → ∀ name ∈ node.rules.required, node.property? name ≠ none
  shallow : ∀ {depth node}, root.At depth node → node.effectiveKind? = some .object →
    node.rules.required ≠ [] → depth < options.maxDepth

/-! ## Examples of plain nodes -/

section Plain

variable {options : ExampleOptions} {depth : Nat} {node : Node}

theorem exampleAt_of_allowed {value : Json} {rest : List Json} (h : node.rules.allowed = some (value :: rest)) :
    node.exampleAt options depth = value :=
  exampleAt_of_head? (by rw [h]; rfl)

theorem exampleAt_of_plain (hc : node.combinations = [])
    (ha : ¬ ∃ value rest, node.rules.allowed = some (value :: rest)) (hr : node.isReference = false) :
    node.exampleAt options depth = node.exampleOfKind options depth := by
  cases node with
  | reference target => cases hr
  | schema rules properties items additional combinations =>
    obtain rfl : combinations = [] := hc
    have hnone : rules.allowed.bind List.head? = none := by
      cases h : rules.allowed with
      | none => rfl
      | some values =>
        cases values with
        | nil => rfl
        | cons value rest => exact absurd ⟨value, rest, h⟩ ha
    rw [exampleAt_schema, hnone, merged?, takeAllOf?]
    rfl

theorem exampleAt_of_isLeaf (hc : node.combinations = []) (h : node.IsLeaf) :
    node.exampleAt options depth = node.toExample options := by
  unfold toExample
  by_cases ha : ∃ value rest, node.rules.allowed = some (value :: rest)
  · obtain ⟨value, rest, ha⟩ := ha
    rw [exampleAt_of_allowed ha, exampleAt_of_allowed ha]
  · by_cases hr : node.isReference = false
    · rw [exampleAt_of_plain hc ha hr, exampleAt_of_plain hc ha hr]
      unfold exampleOfKind
      have hk := h.resolve_left ha
      simp only [List.mem_cons, List.not_mem_nil, or_false] at hk
      rcases hk with hk | hk | hk | hk | hk
      all_goals rw [hk]
    · cases node with
      | reference target => rw [exampleAt_reference, exampleAt_reference]
      | schema => exact absurd rfl hr

theorem effectiveKind?_of_not_isLeaf (h : ¬ node.IsLeaf) :
    node.effectiveKind? ∈ [some .object, some .array, none] := by
  have hk : node.effectiveKind? ∉ [some .string, some .number, some .integer, some .boolean, some .null] :=
    fun hk => h (.inr hk)
  cases he : node.effectiveKind? with
  | none => simp
  | some kind =>
    rw [he] at hk
    cases kind with
    | other tag => exact absurd he (node.effectiveKind?_ne_other tag)
    | object => simp
    | array => simp
    | _ => simp at hk

end Plain

/-! ## Errors of examples -/

section Errors

variable {root node : Node} {options : ExampleOptions} {limits : ValidateOptions} {depth : Nat}

/-- A step down from the example of an object leads to that of a child, if what is required is declared. -/
theorem child_of_step_object (hd : (node.properties.map Prod.fst).Nodup)
    (hr : ∀ child, node.additional = .constrained child → ∀ name ∈ node.rules.required, node.property? name ≠ none)
    {path : FieldPath} {w : Visit}
    (hw : (⟨path, node, .object (node.exampleMembers options depth)⟩ : Visit).Step w) :
    node.Child w.node ∧ w.value = w.node.exampleAt options depth := by
  cases hw with
  | @property _ _ _ name child value declared there =>
    have hp : node.property? name = some child := Names.lookup_of_mem hd declared
    have hm := mem_exampleMembers hd (Names.mem_of_lookup there)
    rcases hm with ⟨other, ho, hv⟩ | ⟨-, hn⟩ | ⟨_, -, hn, -⟩
    · obtain rfl := Option.some.inj ((Names.lookup_of_mem hd ho).symm.trans hp)
      exact ⟨.property declared, hv⟩
    · exact absurd (hn.symm.trans hp) nofun
    · exact absurd (hn.symm.trans hp) nofun
  | @additional _ _ _ name child value constrained undeclared there =>
    rcases mem_exampleMembers hd there with ⟨other, ho, -⟩ | ⟨hm, -⟩ | ⟨other, ho, -, hv⟩
    · exact absurd (undeclared.symm.trans (Names.lookup_of_mem hd ho)) nofun
    · exact absurd undeclared (hr child constrained name hm)
    · obtain rfl := Additional.constrained.inj (constrained.symm.trans ho)
      exact ⟨.additional constrained, hv⟩

theorem child_of_step_array {path : FieldPath} {w : Visit}
    (hw : (⟨path, node, .array (node.exampleItems options depth)⟩ : Visit).Step w) :
    node.Child w.node ∧ w.value = w.node.exampleAt options depth := by
  cases hw with
  | @item _ _ _ i child value items there =>
    have hm := List.mem_of_getElem? there
    rw [exampleItems, items] at hm
    exact ⟨.items items, List.mem_singleton.1 hm⟩

theorem errors_object (h : root.Feasible options limits) (hat : root.At depth node)
    (hd : (node.properties.map Prod.fst).Nodup) (ha : node.rules.allowed = none)
    (hk : node.effectiveKind? = some .object)
    (below : ∀ child, node.Child child →
      ∀ path, Visit.errors limits.maxDepth ⟨path, child, child.exampleAt options (depth + 1)⟩ = [])
    (path : FieldPath) :
    Visit.errors limits.maxDepth
      ⟨path, node, .object (if options.maxDepth ≤ depth then [] else node.exampleMembers options (depth + 1))⟩
        = [] := by
  refine Visit.errors_eq_nil (fits_of_effectiveKind? fun kind he => ?_) ha ?_ fun w hw => ?_
  · obtain rfl := Option.some.inj (hk.symm.trans he)
    rfl
  · -- Nothing that is required is missing.
    refine List.map_eq_nil_iff.2 (List.filter_eq_nil_iff.2 fun name hr => ?_)
    have hroom : ¬ options.maxDepth ≤ depth :=
      Nat.not_le.2 (h.shallow hat hk (List.ne_nil_of_mem hr))
    rw [if_neg hroom, Bool.not_eq_true, Option.isNone_eq_false_iff]
    exact isSome_lookup_exampleMembers hr
  · by_cases hroom : options.maxDepth ≤ depth
    · rw [if_pos hroom] at hw
      cases hw with
      | property _ there => cases there
      | additional _ _ there => cases there
    · rw [if_neg hroom] at hw
      obtain ⟨hchild, hv⟩ := child_of_step_object hd (fun _ hc => h.declared hat hk hc) hw
      have := below w.node hchild w.path
      rwa [← hv] at this

theorem errors_array (ha : node.rules.allowed = none) (hk : node.effectiveKind? = some .array)
    (below : ∀ child, node.Child child →
      ∀ path, Visit.errors limits.maxDepth ⟨path, child, child.exampleAt options (depth + 1)⟩ = [])
    (path : FieldPath) :
    Visit.errors limits.maxDepth
      ⟨path, node, .array (if options.maxDepth ≤ depth then [] else node.exampleItems options (depth + 1))⟩
        = [] := by
  refine Visit.errors_eq_nil (fits_of_effectiveKind? fun kind he => ?_) ha rfl fun w hw => ?_
  · obtain rfl := Option.some.inj (hk.symm.trans he)
    rfl
  · by_cases hroom : options.maxDepth ≤ depth
    · rw [if_pos hroom] at hw
      cases hw with
      | item _ there => cases there
    · rw [if_neg hroom] at hw
      obtain ⟨hchild, hv⟩ := child_of_step_array hw
      have := below w.node hchild w.path
      rwa [← hv] at this

theorem errors_null (ha : node.rules.allowed = none) (hk : node.effectiveKind? = none) (path : FieldPath) :
    Visit.errors limits.maxDepth ⟨path, node, .null⟩ = [] := by
  refine Visit.errors_eq_nil (fits_of_effectiveKind? fun kind he => ?_) ha rfl fun w hw => ?_
  · exact absurd (hk.symm.trans he) nofun
  · cases hw

/-- **No example at a depth has errors**, wherever it stands. -/
theorem errors_exampleAt (h : root.Feasible options limits) (hnames : node.Everywhere NamesHere)
    (hat : root.At depth node) (path : FieldPath) :
    Visit.errors limits.maxDepth ⟨path, node, node.exampleAt options depth⟩ = [] := by
  induction hnames generalizing depth path with
  | @intro node hn _ ih =>
    have below : ∀ child, node.Child child →
        ∀ path, Visit.errors limits.maxDepth ⟨path, child, child.exampleAt options (depth + 1)⟩ = [] :=
      fun child hc path => ih child hc (hat.child hc) path
    by_cases hleaf : node.IsLeaf
    · rw [exampleAt_of_isLeaf (h.plain hat) hleaf]
      have hvalid := h.leaves hat hleaf
      exact Visit.errors_eq_nil_of_le (Nat.zero_le _) (List.isEmpty_iff.1 hvalid)
    · cases hr : node.isReference with
      | true => exact Visit.errors_of_not_open fun hopen => by simp [hopen.known] at hr
      | false =>
        have hk := effectiveKind?_of_not_isLeaf hleaf
        have ha : node.rules.allowed = none := by
          cases hv : node.rules.allowed with
          | none => rfl
          | some values =>
            cases values with
            | nil => exact absurd hv (h.allowed hat hk)
            | cons value rest => exact absurd (.inl ⟨value, rest, hv⟩) hleaf
        rw [exampleAt_of_plain (h.plain hat) (fun hv => hleaf (.inl hv)) hr]
        unfold exampleOfKind
        simp only [List.mem_cons, List.not_mem_nil, or_false] at hk
        rcases hk with hk | hk | hk
        · rw [hk]
          exact errors_object h hat hn.properties ha hk below path
        · rw [hk]
          exact errors_array ha hk below path
        · have hnone : node.firstAlternative? = none := by
            unfold firstAlternative?
            rw [h.plain hat]
            rfl
          rw [hk, hnone]
          exact errors_null ha hk path

end Errors

/-- **The example of a feasible schema is valid.** -/
theorem toExample_valid {schema : Json} {root : Node} {options : ExampleOptions} {limits : ValidateOptions}
    (hc : compile schema = .ok root) (hd : schema.hasDistinctNames = true) (h : root.Feasible options limits) :
    (root.validate limits (root.toExample options)).valid = true ∧
      (root.validate limits (root.toExample options)).errors = [] := by
  have herrors : (root.validate limits (root.toExample options)).errors = [] :=
    errors_exampleAt h (everywhere_namesHere hc hd) .root []
  exact ⟨List.isEmpty_iff.2 herrors, herrors⟩

/-- A schema whose example gets a required property and a further one. -/
def petSchema : Json :=
  .object [
    ("required", .array [.string "name"]),
    ("properties", .object [("name", .object [("minLength", .ofNat 9)])]),
    ("additionalProperties", .object [("type", .string "boolean")])]

def petName : Node := schema { minLength := some 9 } [] none .open []

def petFlag : Node := schema { kind := some .boolean } [] none .open []

def pet : Node := schema { required := ["name"] } [("name", petName)] none (.constrained petFlag) []

theorem at_pet {depth : Nat} {node : Node} (h : pet.At depth node) :
    depth = 0 ∧ node = pet ∨ node = petName ∨ node = petFlag := by
  induction h with
  | root => exact .inl ⟨rfl, rfl⟩
  | child _ hc ih =>
    rcases ih with ⟨rfl, rfl⟩ | rfl | rfl
    · cases hc with
      | property hp =>
        obtain rfl := List.mem_singleton.1 hp
        exact .inr (.inl rfl)
      | items hi => cases hi
      | additional ha =>
        cases ha
        exact .inr (.inr rfl)
      | branch hb _ => cases hb
    · cases hc with
      | property hp => cases hp
      | items hi => cases hi
      | additional ha => cases ha
      | branch hb _ => cases hb
    · cases hc with
      | property hp => cases hp
      | items hi => cases hi
      | additional ha => cases ha
      | branch hb _ => cases hb

theorem feasible_pet : pet.Feasible {} {} where
  plain hat := by
    rcases at_pet hat with ⟨-, rfl⟩ | rfl | rfl <;> rfl
  leaves hat hleaf := by
    rcases at_pet hat with ⟨-, rfl⟩ | rfl | rfl
    · rcases hleaf with ⟨value, rest, hv⟩ | hk
      · cases hv
      · exact absurd hk (by decide)
    · have he : petName.toExample {} = .string "stringxxx" := by
        rw [toExample, exampleAt_of_plain rfl (by rintro ⟨_, _, ⟨⟩⟩) rfl]
        rfl
      rw [he]
      decide
    · have he : petFlag.toExample {} = .bool true := by
        rw [toExample, exampleAt_of_plain rfl (by rintro ⟨_, _, ⟨⟩⟩) rfl]
        rfl
      rw [he]
      decide
  allowed hat _ := by
    rcases at_pet hat with ⟨-, rfl⟩ | rfl | rfl <;> exact nofun
  declared hat _ _ name hr := by
    rcases at_pet hat with ⟨-, rfl⟩ | rfl | rfl
    · obtain rfl := List.mem_singleton.1 hr
      exact nofun
    · cases hr
    · cases hr
  shallow hat _ hr := by
    rcases at_pet hat with ⟨rfl, rfl⟩ | rfl | rfl
    · decide
    · exact absurd rfl hr
    · exact absurd rfl hr

theorem toExample_valid_pet :
    compile petSchema = .ok pet ∧ petSchema.hasDistinctNames = true ∧ pet.Feasible {} {} ∧
      (pet.validate {} (pet.toExample {})).valid = true := by
  have hc : compile petSchema = .ok pet := by rfl
  have hd : petSchema.hasDistinctNames = true := by decide
  exact ⟨hc, hd, feasible_pet, (toExample_valid hc hd feasible_pet).1⟩

end Node

end Schemata
