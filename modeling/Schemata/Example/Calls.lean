import Schemata.Example.Basic

/-!
# Calls of an example

* `Node.Calls` : which examples that of a node asks for, one constructor for each way;
* `Node.Calls.count_lt` : each of them is that of a node with fewer nodes;
* `Node.exampleCalls` : the same nodes in a list;
* `Node.overflowsAt` : a text that is called for, at any step, gets too long;
* `Node.example?` : the example of a schema, unless that is so.
-/

namespace Schemata

namespace Node

/-- The example of the node depends on its effective kind: it has no first allowed value, and nothing to merge. -/
structure ByKind (node : Node) : Prop where
  free : node.rules.allowed.bind List.head? = none
  merged : node.merged? = none

/-- The example of a node at a depth asks for that of another one. -/
inductive Calls (options : ExampleOptions) : Nat × Node → Nat × Node → Prop
  | merged {depth node merged} (free : node.rules.allowed.bind List.head? = none) (h : node.merged? = some merged) :
      Calls options (depth, node) (depth, merged)
  | property {depth node p} (byKind : node.ByKind) (kind : node.effectiveKind? = some .object)
      (room : depth < options.maxDepth) (h : p ∈ node.properties)
      (wanted : options.requiredOnly = true → node.isRequired p.1 = true) :
      Calls options (depth, node) (depth + 1, p.2)
  | additional {depth node child} (byKind : node.ByKind) (kind : node.effectiveKind? = some .object)
      (room : depth < options.maxDepth) (h : node.additional = .constrained child)
      (wanted : options.requiredOnly = false) (undeclared : node.property? additionalName = none) :
      Calls options (depth, node) (depth + 1, child)
  | items {depth node child} (byKind : node.ByKind) (kind : node.effectiveKind? = some .array)
      (room : depth < options.maxDepth) (h : node.items = some child) :
      Calls options (depth, node) (depth + 1, child)
  | alternative {depth node branch} (byKind : node.ByKind) (kind : node.effectiveKind? = none)
      (h : node.firstAlternative? = some branch) :
      Calls options (depth, node) (depth, branch)

/-- Each call is for a node with fewer nodes. -/
theorem Calls.count_lt {options : ExampleOptions} {call next : Nat × Node} (h : Calls options call next) :
    next.2.count < call.2.count := by
  cases h with
  | merged _ h => exact count_lt_of_merged? h
  | property _ _ _ h _ => exact count_lt_of_mem_properties h
  | additional _ _ _ h _ _ => exact count_lt_of_additional h
  | items _ _ _ h => exact count_lt_of_items h
  | alternative _ _ h => exact count_lt_of_firstAlternative? h

section

variable (options : ExampleOptions) (depth : Nat) (node : Node)

/-- The children whose examples are members of that of an object. -/
def memberCalls : List Node :=
  let declared := node.properties.filter fun p => !(options.requiredOnly && !node.isRequired p.1)
  let further := match node.additional with
    | .constrained child =>
      if options.requiredOnly || (node.property? additionalName).isSome then [] else [child]
    | _ => []
  declared.map Prod.snd ++ further

def exampleCalls : List (Nat × Node) :=
  match node.rules.allowed.bind List.head?, node.merged? with
  | some _, _ => []
  | none, some merged => [(depth, merged)]
  | none, none =>
    match node.effectiveKind? with
    | some .object =>
      if options.maxDepth ≤ depth then [] else (node.memberCalls options).map fun child => (depth + 1, child)
    | some .array =>
      if options.maxDepth ≤ depth then [] else node.items.toList.map fun child => (depth + 1, child)
    | none => node.firstAlternative?.toList.map fun branch => (depth, branch)
    | some _ => []

end

variable {options : ExampleOptions} {depth : Nat} {node : Node}

theorem mem_memberCalls_iff {child : Node} :
    child ∈ node.memberCalls options ↔
      (∃ p ∈ node.properties, (options.requiredOnly = true → node.isRequired p.1 = true) ∧ p.2 = child) ∨
        node.additional = .constrained child ∧ options.requiredOnly = false ∧ node.property? additionalName = none := by
  unfold memberCalls
  dsimp only
  rw [List.mem_append]
  apply or_congr
  · simp only [List.mem_map, List.mem_filter, Bool.not_eq_true', Bool.and_eq_false_imp, Bool.not_eq_false', and_assoc]
  · cases ha : node.additional with
    | constrained further =>
      dsimp only
      split
      next hs =>
        rw [Bool.or_eq_true, Option.isSome_iff_ne_none] at hs
        constructor
        · intro h
          cases h
        · rintro ⟨-, hwanted, hundeclared⟩
          obtain hs | hs := hs
          · rw [hwanted] at hs
            cases hs
          · exact absurd hundeclared hs
      next hs =>
        rw [Bool.or_eq_true, not_or, Bool.not_eq_true, Option.not_isSome_iff_eq_none] at hs
        simp [hs, eq_comm]
    | «open» => simp
    | forbidden => simp

theorem mem_exampleCalls_iff {call : Nat × Node} :
    call ∈ node.exampleCalls options depth ↔ Calls options (depth, node) call := by
  constructor
  · intro h
    unfold exampleCalls at h
    split at h
    next => cases h
    next hfree hmerged =>
      obtain rfl := List.mem_singleton.1 h
      exact .merged hfree hmerged
    next hfree hmerged =>
      have hb : node.ByKind := ⟨hfree, hmerged⟩
      split at h
      next hk =>
        obtain ⟨hroom, h⟩ := List.mem_ite_nil_left.1 h
        obtain ⟨child, hchild, rfl⟩ := List.mem_map.1 h
        obtain ⟨p, hp, hwanted, rfl⟩ | ⟨ha, hwanted, hundeclared⟩ := mem_memberCalls_iff.1 hchild
        · exact .property hb hk (Nat.lt_of_not_le hroom) hp hwanted
        · exact .additional hb hk (Nat.lt_of_not_le hroom) ha hwanted hundeclared
      next hk =>
        obtain ⟨hroom, h⟩ := List.mem_ite_nil_left.1 h
        obtain ⟨child, hchild, rfl⟩ := List.mem_map.1 h
        exact .items hb hk (Nat.lt_of_not_le hroom) (Option.mem_toList.1 hchild)
      next hk =>
        obtain ⟨branch, hbranch, rfl⟩ := List.mem_map.1 h
        exact .alternative hb hk (Option.mem_toList.1 hbranch)
      next => cases h
  · intro h
    cases h with
    | merged free hm => simp [exampleCalls, free, hm]
    | property byKind kind room hp wanted =>
      have hmem := mem_memberCalls_iff.2 (.inl ⟨_, hp, wanted, rfl⟩)
      simp [exampleCalls, byKind.free, byKind.merged, kind, Nat.not_le.2 room, hmem]
    | additional byKind kind room ha wanted undeclared =>
      have hmem := mem_memberCalls_iff.2 (.inr ⟨ha, wanted, undeclared⟩)
      simp [exampleCalls, byKind.free, byKind.merged, kind, Nat.not_le.2 room, hmem]
    | items byKind kind room hi => simp [exampleCalls, byKind.free, byKind.merged, kind, Nat.not_le.2 room, hi]
    | alternative byKind kind hf => simp [exampleCalls, byKind.free, byKind.merged, kind, hf]

/-! ## Examples that are too long -/

/-- The example of the node is a text, and it overflows. -/
def textOverflows (node : Node) : Bool :=
  (node.rules.allowed.bind List.head?).isNone && node.merged?.isNone &&
    node.effectiveKind? = some .string && node.rules.exampleOverflows

/-- A text that the example of a node at a depth calls for overflows. -/
def overflowsAt (options : ExampleOptions) (depth : Nat) (node : Node) : Bool :=
  node.textOverflows || (node.exampleCalls options depth).attach.any fun ⟨call, _hc⟩ =>
    overflowsAt options call.1 call.2
termination_by node.count
decreasing_by exact (mem_exampleCalls_iff.1 _hc).count_lt

/-- The example of a schema, unless it is too long to be made. -/
def example? (node : Node) (options : ExampleOptions) : Option Json :=
  if node.overflowsAt options 0 then none else some (node.toExample options)

end Node

end Schemata
