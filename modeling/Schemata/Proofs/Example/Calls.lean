import Mathlib.Data.List.Basic
import Mathlib.Logic.Function.Iterate
import Mathlib.Logic.Relation
import Schemata.Example.Calls
import Schemata.Proofs.Example.Merged
import Schemata.Proofs.Example.Parts

/-!
# Examples come to an end

* `Node.exampleBy` : one step of an example, the examples that it asks for being given;
* `Node.exampleBy_congr` : only the examples that it calls for matter;
* `Node.Calls.induction` : what holds of a node if it holds of all that is called for, holds of each node;
* `Node.iterate_exampleBy` : so there are no more steps inside one another than the schema has nodes;
* `Node.exampleAt_merge` : an example does not show whether a node was merged before;
* `Node.MergesOnce` : nothing is left to merge once a node is merged; kept by each call below a schema that was read;
* `Node.exampleAt_ends` : all of this together.
-/

namespace Schemata

namespace Node

/-! ## One step -/

section Step

variable (options : ExampleOptions) (given : Nat → Node → Json) (depth : Nat) (node : Node)

def membersBy : List (String × Json) :=
  let declared := node.properties.filterMap fun p =>
    if options.requiredOnly && !node.isRequired p.1 then none else some (p.1, given depth p.2)
  let members := withRequired node.rules.required (Json.membersOf declared)
  match node.additional with
  | .constrained child =>
    if options.requiredOnly || (node.property? additionalName).isSome then members
    else Json.setMember additionalName (given depth child) members
  | .open | .forbidden => members

def itemsBy : List Json :=
  match node.items with
  | some child => [given depth child]
  | none => [placeholder]

/-- The example of a node by its effective kind, those of its parts being given; `exampleOfKind` is the case where
examples are given. -/
def exampleOfKindBy : Json :=
  match node.effectiveKind? with
  | some .object => .object (if options.maxDepth ≤ depth then [] else node.membersBy options given (depth + 1))
  | some .array => .array (if options.maxDepth ≤ depth then [] else node.itemsBy given (depth + 1))
  | some .string => .string node.rules.exampleString
  | some .integer => .number node.rules.exampleInteger
  | some .number => (node.rules.exampleNumber?.map fun x => Json.number (.double x)).getD .null
  | some .boolean => .bool true
  | some .null => .null
  | some (.other _) | none => (node.firstAlternative?.map (given depth)).getD .null

end Step

/-- One step of an example, the examples that it asks for being given. -/
def exampleBy (options : ExampleOptions) (given : Nat → Node → Json) (depth : Nat) : Node → Json
  | reference _ => .null
  | schema rules properties items additional combinations =>
    let node := schema rules properties items additional combinations
    (rules.allowed.bind List.head?).getD
      ((node.merged?.map (given depth)).getD (node.exampleOfKindBy options given depth))

theorem exampleBy_exampleAt (options : ExampleOptions) (depth : Nat) (node : Node) :
    exampleBy options (exampleAt options) depth node = exampleAt options depth node := by
  cases node with
  | reference target => rw [exampleAt_reference, exampleBy]
  | schema rules properties items additional combinations => exact (exampleAt_schema ..).symm

/-! ## Calls -/

/-- What holds of a node if it holds of all that its example asks for, holds of each node at each depth. -/
theorem Calls.induction (options : ExampleOptions) {motive : Nat → Node → Prop}
    (step : ∀ depth node, (∀ next, Calls options (depth, node) next → motive next.1 next.2) → motive depth node)
    (depth : Nat) (node : Node) : motive depth node :=
  step depth node fun next h =>
    have := h.count_lt
    Calls.induction options step next.1 next.2
termination_by node.count

/-- What absorbing keeps, all of a node that is called for has if all of the calling one has it. -/
theorem Calls.everywhere {P : Node → Prop} (hwithout : ∀ {node}, P node → P node.withoutAllOf)
    (habsorb : ∀ {target branch}, P target → P branch → P (target.absorb branch)) {options : ExampleOptions}
    {call next : Nat × Node} (hn : Calls options call next) (h : call.2.Everywhere P) : next.2.Everywhere P := by
  cases hn with
  | merged _ hm => exact merge_of_merged?_eq_some hm ▸ everywhere_merge (P := P) hwithout habsorb h
  | property _ _ _ hp _ => exact h.child (.property hp)
  | additional _ _ _ ha _ _ => exact h.child (.additional ha)
  | items _ _ _ hi => exact h.child (.items hi)
  | alternative _ _ hf => exact h.child (.of_firstAlternative? hf)

section Congruence

variable {options : ExampleOptions} {given given' : Nat → Node → Json} {depth : Nat} {node : Node}

theorem membersBy_congr (hb : node.ByKind) (hk : node.effectiveKind? = some .object) (hroom : depth < options.maxDepth)
    (h : ∀ next, Calls options (depth, node) next → given next.1 next.2 = given' next.1 next.2) :
    node.membersBy options given (depth + 1) = node.membersBy options given' (depth + 1) := by
  have hdeclared : (node.properties.filterMap fun p =>
      if options.requiredOnly && !node.isRequired p.1 then none else some (p.1, given (depth + 1) p.2)) =
      node.properties.filterMap fun p =>
        if options.requiredOnly && !node.isRequired p.1 then none else some (p.1, given' (depth + 1) p.2) := by
    refine List.filterMap_congr fun p hp => ?_
    by_cases hs : (options.requiredOnly && !node.isRequired p.1) = true
    · rw [if_pos hs, if_pos hs]
    · rw [if_neg hs, if_neg hs]
      have hwanted : options.requiredOnly = true → node.isRequired p.1 = true := by simpa using hs
      rw [h _ (.property hb hk hroom hp hwanted)]
  unfold membersBy
  rw [hdeclared]
  dsimp only
  cases ha : node.additional with
  | constrained child =>
    by_cases hs : (options.requiredOnly || (node.property? additionalName).isSome) = true
    · dsimp only
      rw [if_pos hs, if_pos hs]
    · dsimp only
      rw [if_neg hs, if_neg hs]
      rw [Bool.or_eq_true, not_or, Bool.not_eq_true, Option.not_isSome_iff_eq_none] at hs
      rw [h _ (.additional hb hk hroom ha hs.1 hs.2)]
  | «open» => rfl
  | forbidden => rfl

theorem itemsBy_congr (hb : node.ByKind) (hk : node.effectiveKind? = some .array) (hroom : depth < options.maxDepth)
    (h : ∀ next, Calls options (depth, node) next → given next.1 next.2 = given' next.1 next.2) :
    node.itemsBy given (depth + 1) = node.itemsBy given' (depth + 1) := by
  unfold itemsBy
  cases hi : node.items with
  | none => rfl
  | some child => exact congrArg (fun value => [value]) (h _ (.items hb hk hroom hi))

theorem exampleOfKindBy_congr (hb : node.ByKind)
    (h : ∀ next, Calls options (depth, node) next → given next.1 next.2 = given' next.1 next.2) :
    node.exampleOfKindBy options given depth = node.exampleOfKindBy options given' depth := by
  unfold exampleOfKindBy
  cases hk : node.effectiveKind? with
  | none =>
    dsimp only
    cases hf : node.firstAlternative? with
    | none => rfl
    | some branch => exact h _ (.alternative hb hk hf)
  | some kind =>
    cases kind with
    | object =>
      dsimp only
      by_cases hroom : options.maxDepth ≤ depth
      · rw [if_pos hroom, if_pos hroom]
      · rw [if_neg hroom, if_neg hroom, membersBy_congr hb hk (Nat.lt_of_not_le hroom) h]
    | array =>
      dsimp only
      by_cases hroom : options.maxDepth ≤ depth
      · rw [if_pos hroom, if_pos hroom]
      · rw [if_neg hroom, if_neg hroom, itemsBy_congr hb hk (Nat.lt_of_not_le hroom) h]
    | other tag => exact absurd hk (node.effectiveKind?_ne_other tag)
    | _ => rfl

/-- Only the examples that are called for matter. -/
theorem exampleBy_congr
    (h : ∀ next, Calls options (depth, node) next → given next.1 next.2 = given' next.1 next.2) :
    exampleBy options given depth node = exampleBy options given' depth node := by
  cases node with
  | reference target => rfl
  | schema rules properties items additional combinations =>
    rw [exampleBy, exampleBy]
    cases hfree : rules.allowed.bind List.head? with
    | some value => rfl
    | none =>
      rw [Option.getD_none, Option.getD_none]
      cases hm : merged? (schema rules properties items additional combinations) with
      | some merged => exact h _ (.merged hfree hm)
      | none => exact exampleOfKindBy_congr ⟨hfree, hm⟩ h

end Congruence

/-- As many steps as the node has nodes give its example, whatever the innermost one is given. -/
theorem iterate_exampleBy (options : ExampleOptions) (start : Nat → Node → Json) {steps depth : Nat} {node : Node}
    (h : node.count ≤ steps) : (exampleBy options)^[steps] start depth node = exampleAt options depth node := by
  induction steps generalizing depth node with
  | zero => exact absurd h (Nat.not_le.2 node.count_pos)
  | succ steps ih =>
    rw [Function.iterate_succ_apply', ← exampleBy_exampleAt]
    exact exampleBy_congr fun next hn => ih (Nat.le_of_lt_succ (Nat.lt_of_lt_of_le hn.count_lt h))

theorem toExample_eq_iterate (node : Node) (options : ExampleOptions) :
    node.toExample options = (exampleBy options)^[node.count] (fun _ _ => .null) 0 node :=
  (iterate_exampleBy options _ (Nat.le_refl _)).symm

/-! ## Merging once -/

/-- An example does not show whether a node was merged before. -/
theorem exampleAt_merge (options : ExampleOptions) (depth : Nat) (node : Node) :
    exampleAt options depth node.merge = exampleAt options depth node := by
  cases ha : node.rules.allowed.bind List.head? with
  | some value =>
    obtain ⟨values, hvalues, hhead⟩ := Option.bind_eq_some_iff.1 ha
    have hmerge : node.merge.rules.allowed.bind List.head? = some value := by
      rw [allowed_merge, hvalues, Option.some_or, Option.bind_some, hhead]
    rw [exampleAt_of_head? ha, exampleAt_of_head? hmerge]
  | none =>
    cases hm : node.merged? with
    | none => rw [merge_of_merged?_eq_none hm]
    | some merged => rw [merge_of_merged?_eq_some hm, exampleAt_of_merged?_eq_some ha hm]

/-- Nothing is left to merge once the node is merged, nor in what is below it then. -/
structure MergesOnce (node : Node) : Prop where
  once : node.merge.merged? = none
  below : ∀ child, node.merge.Child child → child.Everywhere InOrder

theorem mergesOnce_of_everywhere {node : Node} (h : node.Everywhere InOrder) : node.MergesOnce :=
  ⟨merged?_merge h, everywhere_of_child_merge h⟩

theorem MergesOnce.child {node child : Node} (h : node.MergesOnce) (hb : node.ByKind) (hc : node.Child child) :
    child.MergesOnce := by
  have hm := merge_of_merged?_eq_none hb.merged
  exact mergesOnce_of_everywhere (h.below child (hm.symm ▸ hc))

theorem MergesOnce.calls {options : ExampleOptions} {call next : Nat × Node} (h : call.2.MergesOnce)
    (hn : Calls options call next) : next.2.MergesOnce := by
  cases hn with
  | @merged _ node merged _ hm =>
    have hmerge : node.merge = merged := merge_of_merged?_eq_some hm
    have hnone : merged.merged? = none := hmerge ▸ h.once
    have hself : merged.merge = merged := merge_of_merged?_eq_none hnone
    exact ⟨hself.symm ▸ hnone, fun child hc => h.below child (by rwa [hself, ← hmerge] at hc)⟩
  | property hb _ _ hp _ => exact h.child hb (.property hp)
  | additional hb _ _ ha _ _ => exact h.child hb (.additional ha)
  | items hb _ _ hi => exact h.child hb (.items hi)
  | alternative hb _ hf => exact h.child hb (.of_firstAlternative? hf)

theorem mergesOnce_of_calls {options : ExampleOptions} {start call : Nat × Node} (h : start.2.MergesOnce)
    (hcalls : Relation.ReflTransGen (Calls options) start call) : call.2.MergesOnce := by
  induction hcalls with
  | refl => exact h
  | tail _ hn ih => exact ih.calls hn

/-- **Examples come to an end.** Whatever is combined and however it is nested, each call is for a node with fewer
nodes, that for a merged node included; so as many steps as the node has nodes give its example, whatever the innermost
one is given, and at any depth. Where a schema that was read calls for a merged node, no `allOf` with branches is left
in it, so there is nothing to merge again. -/
theorem exampleAt_ends (options : ExampleOptions) :
    (∀ {call next}, Calls options call next → next.2.count < call.2.count) ∧
      (∀ start depth node, (exampleBy options)^[node.count] start depth node = exampleAt options depth node) ∧
      ∀ {path schema node}, compileAt path schema = .ok node →
        ∀ depth call, Relation.ReflTransGen (Calls options) (depth, node) call →
          ∀ merged, call.2.merged? = some merged → merged.HasNoAllOf ∧ merged.merged? = none := by
  refine ⟨Calls.count_lt, fun start depth node => iterate_exampleBy options start (Nat.le_refl _), ?_⟩
  intro path schema node hc depth call hcalls merged hm
  have honce : call.2.MergesOnce := mergesOnce_of_calls (mergesOnce_of_everywhere (everywhere_inOrder hc)) hcalls
  have hnone : merged.merged? = none := merge_of_merged?_eq_some hm ▸ honce.once
  exact ⟨merged?_eq_none_iff.1 hnone, hnone⟩

/-- An `allOf` in an `allOf`; the inner one has a branch with alternatives, and the outer one a further branch. -/
def stackedSchema : Json :=
  .object [
    ("allOf", .array [
      .object [("allOf", .array [.object [("anyOf", .array [.object [("type", .string "array")]])]])],
      .object [("properties", .object [("name", .object [("type", .string "string")])])]])]

def stackedText : Node := schema { kind := some .string } [] none .open []

def stackedAlternatives : List (Combinator × List Node) :=
  [(.anyOf, [schema { kind := some .array } [] none .open []])]

def stacked : Node :=
  schema {} [] none .open
    [(.allOf, [
      schema {} [] none .open [(.allOf, [schema {} [] none .open stackedAlternatives])],
      schema {} [("name", stackedText)] none .open []])]

def stackedMerged : Node := schema {} [("name", stackedText)] none .open stackedAlternatives

theorem exampleAt_ends_stacked :
    compile stackedSchema = .ok stacked ∧ stacked.merged? = some stackedMerged ∧
      Calls {} (0, stacked) (0, stackedMerged) ∧ stackedMerged.count < stacked.count ∧
      (exampleBy {})^[6] (fun _ _ => .null) 0 stacked = .object [("name", .string "string")] ∧
      stackedMerged.HasNoAllOf ∧ stackedMerged.merged? = none := by
  have hc : compile stackedSchema = .ok stacked := by rfl
  have hm : stacked.merged? = some stackedMerged := by rfl
  have hcall : Calls {} (0, stacked) (0, stackedMerged) := .merged rfl hm
  obtain ⟨hcount, hiterate, honce⟩ := exampleAt_ends {}
  have hexample : exampleAt {} 0 stacked = .object [("name", .string "string")] := by
    rw [← hiterate fun _ _ => .null]
    rfl
  exact ⟨hc, hm, hcall, hcount hcall, (hiterate _ 0 stacked).trans hexample,
    honce hc 0 (0, stacked) .refl stackedMerged hm⟩

end Node

end Schemata
