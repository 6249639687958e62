import Schemata.Schema.Node

/-!
# The number of nodes

* `Node.count_lt_of_mem_properties` and its companions : a child has fewer nodes than its parent.
-/

namespace Schemata.Node

theorem count_pos (node : Node) : 0 < node.count := by
  cases node <;> simp only [count] <;> omega

theorem count_le_countProperties {name : String} {child : Node} :
    ∀ {properties : List (String × Node)}, (name, child) ∈ properties →
      child.count ≤ countProperties properties
  | (_, node) :: rest, h => by
    rcases List.mem_cons.1 h with h | h
    · cases h; simp [countProperties]
    · have := count_le_countProperties h
      simp [countProperties]; omega

theorem count_lt_of_mem_properties {node : Node} {entry : String × Node}
    (h : entry ∈ node.properties) : entry.2.count < node.count := by
  cases node with
  | reference => simp [properties] at h
  | schema rules props items additional combinations =>
    have : entry.2.count ≤ countProperties props := count_le_countProperties h
    simp [count]; omega

theorem count_lt_of_items {node child : Node} (h : node.items = some child) :
    child.count < node.count := by
  cases node with
  | reference => simp [items] at h
  | schema rules props its additional combinations =>
    simp only [items] at h
    subst h
    simp [count, countItems]; omega

theorem count_lt_of_additional {node child : Node} (h : node.additional = .constrained child) :
    child.count < node.count := by
  cases node with
  | reference => simp [additional] at h
  | schema rules props its add combinations =>
    simp only [additional] at h
    subst h
    simp [count, countAdditional]; omega

theorem count_le_countNodes {child : Node} :
    ∀ {nodes : List Node}, child ∈ nodes → child.count ≤ countNodes nodes
  | node :: rest, h => by
    rcases List.mem_cons.1 h with h | h
    · cases h; simp [countNodes]
    · have := count_le_countNodes h
      simp [countNodes]; omega

theorem countNodes_le_countCombinations {combinator : Combinator} {branches : List Node} :
    ∀ {combinations : List (Combinator × List Node)}, (combinator, branches) ∈ combinations →
      countNodes branches ≤ countCombinations combinations
  | (_, nodes) :: rest, h => by
    rcases List.mem_cons.1 h with h | h
    · cases h; simp [countCombinations]
    · have := countNodes_le_countCombinations h
      simp [countCombinations]; omega

theorem count_lt_of_mem_branches {node child : Node} {combinator : Combinator}
    {branches : List Node} (h : (combinator, branches) ∈ node.combinations)
    (hc : child ∈ branches) : child.count < node.count := by
  cases node with
  | reference => simp [combinations] at h
  | schema rules props its add combs =>
    have := countNodes_le_countCombinations h
    have := count_le_countNodes hc
    simp only [combinations] at *
    simp [count]; omega

end Schemata.Node
