import Mathlib.Logic.Relation
import Schemata.Proofs.Schema.Compile
import Schemata.Validation.Basic

/-!
# The places that a validation comes to

* `Rules.violations` : what a node finds at a value, the parts of the value apart;
* `Visit` : a node that is asked about the value at a path; `Visit.Open` : its keywords count there;
  `Visit.children` : what it asks about the parts of the value, in order;
* `Visit.Reached` : one visit leads to another, open and of the right kind all the way;
* `Visit.errors_of_open` : the errors of a visit are its own ones and then those of its children;
* `Visit.Collects`, `Visit.mem_errors_iff` : hence they are the own ones of the open visits that it leads to.
-/

namespace Schemata

/-- The node stands for a schema that is not known. -/
def Node.isReference : Node → Bool
  | .reference _ => true
  | .schema .. => false

namespace Rules

def fits (rules : Rules) (value : Json) : Bool := rules.kind.all fun kind => kind.accepts value

/-- What the keywords that are made for one kind find at a value. -/
def checkContent (rules : Rules) (path : FieldPath) : Json → List Violation
  | .string s => rules.checkString path s
  | .number n => rules.checkNumber path n
  | .object members => rules.checkRequired path members
  | .array _ | .bool _ | .null => []

/-- What the rules find at a value, the parts of the value apart. A wrong kind hides the rest. -/
def violations (rules : Rules) (path : FieldPath) (value : Json) : List Violation :=
  match rules.typeError? path value with
  | some violation => [violation]
  | none => rules.checkAllowed path value ++ rules.checkContent path value

theorem typeError?_eq_none_iff {rules : Rules} {path : FieldPath} {value : Json} :
    rules.typeError? path value = none ↔ rules.fits value = true := by
  unfold typeError? fits
  cases rules.kind with
  | none => simp
  | some kind => by_cases h : kind.accepts value <;> simp [h]

end Rules

/-! ## Errors of findings -/

namespace Findings

@[simp] theorem errors_append (a b : Findings) : (a ++ b).errors = a.errors ++ b.errors := rfl

@[simp] theorem errors_empty : Findings.empty.errors = [] := rfl

@[simp] theorem errors_ofErrors (errors : List Violation) : (ofErrors errors).errors = errors := rfl

@[simp] theorem errors_undeclared (path : FieldPath) (name : String) :
    (undeclared path name).errors = [] := rfl

@[simp] theorem errors_join (parts : List Findings) :
    (join parts).errors = parts.flatMap Findings.errors := by
  induction parts with
  | nil => rfl
  | cons part rest ih => rw [join, errors_append, ih, List.flatMap_cons]

@[simp] theorem errors_warnDeprecated (rules : Rules) (path : FieldPath) (name : String) :
    (rules.warnDeprecated path name).errors = [] := by
  unfold Rules.warnDeprecated
  split <;> rfl

@[simp] theorem errors_warnAbsent (rules : Rules) (path : FieldPath) (name : String) :
    (rules.warnAbsent path name).errors = [] := by
  unfold Rules.warnAbsent
  split <;> rfl

end Findings

/-! ## Visits -/

/-- A node that is asked about the value at a path. -/
structure Visit where
  path : FieldPath
  node : Node
  value : Json

namespace Visit

def errors (limit : Nat) (v : Visit) : List Violation := (v.node.check limit v.path v.value).errors

/-- The keywords of the node count: the place is not too deep, the schema is known, and the value is
no `null` that the node allows besides. -/
structure Open (limit : Nat) (v : Visit) : Prop where
  within : v.path.length ≤ limit
  known : v.node.isReference = false
  unexcused : ¬ (v.value = .null ∧ v.node.rules.nullable = true)

def ofProperty? (path : FieldPath) (members : List (String × Json)) (entry : String × Node) :
    Option Visit :=
  (members.lookup entry.1).map fun value => ⟨path ++ [.name entry.1], entry.2, value⟩

def ofAdditional (path : FieldPath) (members : List (String × Json)) : Additional Node → List Visit
  | .constrained child => members.map fun m => ⟨path ++ [.name m.1], child, m.2⟩
  | .open | .forbidden => []

def ofItems (path : FieldPath) (values : List Json) : Option Node → List Visit
  | some child => values.mapIdx fun i value => ⟨path ++ [.index i], child, value⟩
  | none => []

/-- What the node asks about the parts of the value. -/
def children (v : Visit) : List Visit :=
  match v.value with
  | .object members =>
    v.node.properties.filterMap (ofProperty? v.path members)
      ++ ofAdditional v.path (members.filter fun m => (v.node.property? m.1).isNone)
        v.node.additional
  | .array values => ofItems v.path values v.node.items
  | .string _ | .number _ | .bool _ | .null => []

/-- One step down: to a declared property, to a member that is not declared but constrained, or to an
item. -/
inductive Step : Visit → Visit → Prop
  | property {path node members name child value} (declared : (name, child) ∈ node.properties)
      (there : members.lookup name = some value) :
      Step ⟨path, node, .object members⟩ ⟨path ++ [.name name], child, value⟩
  | additional {path node members name child value} (constrained : node.additional = .constrained child)
      (undeclared : node.property? name = none) (there : (name, value) ∈ members) :
      Step ⟨path, node, .object members⟩ ⟨path ++ [.name name], child, value⟩
  | item {path node values i child value} (items : node.items = some child)
      (there : values[i]? = some value) :
      Step ⟨path, node, .array values⟩ ⟨path ++ [.index i], child, value⟩

theorem mem_ofAdditional {path : FieldPath} {members : List (String × Json)}
    {additional : Additional Node} {w : Visit} :
    w ∈ ofAdditional path members additional ↔
      ∃ child m, additional = .constrained child ∧ m ∈ members ∧ w = ⟨path ++ [.name m.1], child, m.2⟩ := by
  cases additional with
  | «open» => simp [ofAdditional]
  | forbidden => simp [ofAdditional]
  | constrained child => simp [ofAdditional, eq_comm]

theorem mem_ofItems {path : FieldPath} {values : List Json} {items : Option Node} {w : Visit} :
    w ∈ ofItems path values items ↔
      ∃ child i value, items = some child ∧ values[i]? = some value ∧ w = ⟨path ++ [.index i], child, value⟩ := by
  cases items with
  | none => simp [ofItems]
  | some child =>
    rw [ofItems, List.mem_mapIdx]
    constructor
    · rintro ⟨i, hi, rfl⟩
      exact ⟨child, i, values[i], rfl, List.getElem?_eq_getElem hi, rfl⟩
    · rintro ⟨_, i, value, ⟨⟩, there, rfl⟩
      obtain ⟨hi, rfl⟩ := List.getElem?_eq_some_iff.1 there
      exact ⟨i, hi, rfl⟩

theorem mem_children_iff {v w : Visit} : w ∈ v.children ↔ v.Step w := by
  obtain ⟨path, node, value⟩ := v
  constructor
  · intro h
    cases value with
    | object members =>
      rcases List.mem_append.1 h with h | h
      · obtain ⟨⟨name, child⟩, declared, h⟩ := List.mem_filterMap.1 h
        obtain ⟨value, there, rfl⟩ := Option.map_eq_some_iff.1 h
        exact .property declared there
      · obtain ⟨child, ⟨name, value⟩, constrained, hm, rfl⟩ := mem_ofAdditional.1 h
        obtain ⟨there, undeclared⟩ := List.mem_filter.1 hm
        exact .additional constrained (by simpa using undeclared) there
    | array values =>
      obtain ⟨child, i, value, items, there, rfl⟩ := mem_ofItems.1 h
      exact .item items there
    | _ => simp [children] at h
  · intro h
    cases h with
    | property declared there =>
      exact List.mem_append_left _ (List.mem_filterMap.2 ⟨_, declared, by simp [ofProperty?, there]⟩)
    | @additional _ _ _ name child value constrained undeclared there =>
      refine List.mem_append_right _ (mem_ofAdditional.2 ⟨child, (name, value), constrained, ?_, rfl⟩)
      exact List.mem_filter.2 ⟨there, by simp [undeclared]⟩
    | item items there => exact mem_ofItems.2 ⟨_, _, _, items, there, rfl⟩

theorem Step.child {v w : Visit} (h : v.Step w) : v.node.Child w.node := by
  cases h with
  | property declared _ => exact .property declared
  | additional constrained _ _ => exact .additional constrained
  | item items _ => exact .items items

theorem Step.hasPart {v w : Visit} (h : v.Step w) : v.value.HasPart w.value := by
  cases h with
  | property _ there => exact .of_lookup there
  | additional _ _ there => exact .member there
  | item _ there => exact .item (List.mem_of_getElem? there)

theorem Step.count_lt {v w : Visit} (h : v.Step w) : w.node.count < v.node.count := h.child.count_lt

theorem Step.exists_path_eq {v w : Visit} (h : v.Step w) : ∃ segment, w.path = v.path ++ [segment] := by
  cases h with
  | property _ _ => exact ⟨_, rfl⟩
  | additional _ _ _ => exact ⟨_, rfl⟩
  | item _ _ => exact ⟨_, rfl⟩

/-! ## Errors of a visit -/

theorem errors_of_not_open {limit : Nat} {v : Visit} (h : ¬ v.Open limit) : v.errors limit = [] := by
  obtain ⟨path, node, value⟩ := v
  unfold errors
  rw [Node.check.eq_def]
  cases node with
  | reference target => rfl
  | schema rules properties items additional combinations =>
    dsimp only
    split
    · rfl
    · next within =>
      split
      · rfl
      · next unexcused => exact absurd ⟨Nat.not_lt.1 within, rfl, unexcused⟩ h

theorem errors_checkProperties (limit : Nat) (path : FieldPath) (required : List String)
    (members : List (String × Json)) (properties : List (String × Node)) :
    (Node.checkProperties limit path required members properties).errors =
      (properties.filterMap (ofProperty? path members)).flatMap (errors limit) := by
  induction properties with
  | nil =>
    rw [Node.checkProperties]
    rfl
  | cons entry rest ih =>
    obtain ⟨name, child⟩ := entry
    rw [Node.checkProperties, List.filterMap_cons]
    cases h : members.lookup name with
    | none =>
      have hw : (if required.contains name then Findings.empty
          else child.rules.warnAbsent (path ++ [.name name]) name).errors = [] := by
        split
        · rfl
        · exact Findings.errors_warnAbsent _ _ _
      simp only [Findings.errors_append, hw, ofProperty?, h, ih, List.nil_append, Option.map_none]
    | some value => simp [ofProperty?, h, ih, errors]

theorem errors_checkAdditional (limit : Nat) (path : FieldPath) (members : List (String × Json))
    (additional : Additional Node) :
    (Node.checkAdditional limit path additional members).errors =
      (ofAdditional path members additional).flatMap (errors limit) := by
  cases additional with
  | «open» =>
    rw [Node.checkAdditional]
    rfl
  | forbidden =>
    rw [Node.checkAdditional, ofAdditional]
    simp [List.flatMap_map]
  | constrained child =>
    rw [Node.checkAdditional, ofAdditional, Findings.errors_join, List.flatMap_map, List.flatMap_map]
    rfl

theorem errors_checkItems (limit : Nat) (path : FieldPath) (values : List Json) (items : Option Node) :
    (Node.checkItems limit path items values).errors =
      (ofItems path values items).flatMap (errors limit) := by
  cases items with
  | none =>
    rw [Node.checkItems]
    rfl
  | some child =>
    rw [Node.checkItems, ofItems, Findings.errors_join, List.mapIdx_eq_zipIdx_map,
      List.mapIdx_eq_zipIdx_map, List.flatMap_map, List.flatMap_map]
    rfl

/-- **The errors of an open visit** are those of the node at the value itself, and then, if the kind
is right, those of its children. -/
theorem errors_of_open {limit : Nat} {v : Visit} (h : v.Open limit) :
    v.errors limit = v.node.rules.violations v.path v.value ++
      if v.node.rules.fits v.value then v.children.flatMap (errors limit) else [] := by
  obtain ⟨path, node, value⟩ := v
  cases node with
  | reference target => exact absurd h.known (by simp [Node.isReference])
  | schema rules properties items additional combinations =>
    have within : ¬ limit < path.length := Nat.not_lt.2 h.within
    have unexcused : ¬ (value = .null ∧ rules.nullable = true) := h.unexcused
    unfold errors
    rw [Node.check.eq_def]
    dsimp only
    rw [if_neg within, if_neg unexcused]
    show _ = rules.violations path value ++ if rules.fits value then _ else _
    unfold Rules.violations
    cases ht : rules.typeError? path value with
    | some violation =>
      have hf : ¬ rules.fits value := fun hf => by simp [Rules.typeError?_eq_none_iff.2 hf] at ht
      rw [if_neg hf]
      rfl
    | none =>
      rw [if_pos (Rules.typeError?_eq_none_iff.1 ht)]
      cases value with
      | object members =>
        simp only [Findings.errors_append, Findings.errors_ofErrors, errors_checkProperties,
          errors_checkAdditional, children, List.flatMap_append, List.append_assoc]
        rfl
      | array values =>
        simp only [Findings.errors_append, Findings.errors_ofErrors, errors_checkItems, children,
          Rules.checkContent, List.append_nil]
        rfl
      | _ => simp [children, Rules.checkContent]

/-! ## Reached visits -/

/-- A step down that a validation takes: from an open visit whose value is of the right kind. -/
def Descends (limit : Nat) (v w : Visit) : Prop :=
  v.Open limit ∧ v.node.rules.fits v.value = true ∧ v.Step w

/-- One visit leads to another by steps that a validation takes. -/
abbrev Reached (limit : Nat) : Visit → Visit → Prop := Relation.ReflTransGen (Descends limit)

/-- What is found from a visit on: nothing if it is not open, else what is found at the visit itself and then, if the
kind is right, what is found from its children on. -/
structure Collects {α : Type} (limit : Nat) (own found : Visit → List α) : Prop where
  of_open : ∀ {v : Visit}, v.Open limit →
    found v = own v ++ if v.node.rules.fits v.value then v.children.flatMap found else []
  of_not_open : ∀ {v : Visit}, ¬ v.Open limit → found v = []

section Collects

variable {α : Type} {limit : Nat} {own found : Visit → List α} {v w : Visit} {a : α}

theorem Collects.exists_reached (hc : Collects limit own found) (v : Visit) (h : a ∈ found v) :
    ∃ w, Reached limit v w ∧ w.Open limit ∧ a ∈ own w := by
  by_cases hv : v.Open limit
  · rw [hc.of_open hv] at h
    rcases List.mem_append.1 h with h | h
    · exact ⟨v, .refl, hv, h⟩
    · split at h
      · next hf =>
        obtain ⟨w, hw, h⟩ := List.mem_flatMap.1 h
        have hs : v.Step w := mem_children_iff.1 hw
        have := hs.count_lt
        obtain ⟨u, hwu, hu, ha⟩ := hc.exists_reached w h
        exact ⟨u, .head ⟨hv, hf, hs⟩ hwu, hu, ha⟩
      · cases h
  · rw [hc.of_not_open hv] at h
    cases h
termination_by v.node.count

theorem Collects.mem_of_reached (hc : Collects limit own found) (h : Reached limit v w) (hw : w.Open limit)
    (ha : a ∈ own w) : a ∈ found v := by
  induction h using Relation.ReflTransGen.head_induction_on with
  | refl =>
    rw [hc.of_open hw]
    exact List.mem_append_left _ ha
  | head hs _ ih =>
    obtain ⟨hv, hf, hs⟩ := hs
    rw [hc.of_open hv, if_pos hf]
    exact List.mem_append_right _ (List.mem_flatMap.2 ⟨_, mem_children_iff.2 hs, ih⟩)

/-- What is found from a visit on is what is found at the open visits that it reaches. -/
theorem Collects.mem_iff (hc : Collects limit own found) :
    a ∈ found v ↔ ∃ w, Reached limit v w ∧ w.Open limit ∧ a ∈ own w :=
  ⟨hc.exists_reached v, fun ⟨_, h, hw, ha⟩ => hc.mem_of_reached h hw ha⟩

end Collects

theorem collects_errors (limit : Nat) :
    Collects limit (fun v => v.node.rules.violations v.path v.value) (errors limit) :=
  ⟨errors_of_open, errors_of_not_open⟩

/-- **The errors that a visit leads to** are the own ones of the open visits that it reaches. -/
theorem mem_errors_iff {limit : Nat} {v : Visit} {e : Violation} :
    e ∈ v.errors limit ↔
      ∃ w, Reached limit v w ∧ w.Open limit ∧ e ∈ w.node.rules.violations w.path w.value :=
  (collects_errors limit).mem_iff

end Visit

end Schemata
