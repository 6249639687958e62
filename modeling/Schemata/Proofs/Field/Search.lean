import Mathlib.Logic.Relation
import Schemata.Proofs.Schema.Compile

/-!
# The search for a property

* `Node.combined` : the branches that a search goes through;
* `Node.findProperty?_eq` : a search asks the node first, and then its branches one after the other;
* `Node.exists_of_search`, `Node.exists_search` : where a search of this form finds something, and when it does;
* `Node.Declares` : a property is declared by a node or in what it combines; what is found is so.
-/

namespace Schemata

namespace Node

/-! ## Branches -/

/-- The branches that a search goes through. -/
def combined (node : Node) : List Node := (node.combinations.filter fun c => c.1 ≠ .not).flatMap Prod.snd

theorem findInBranches?_eq (name : String) (branches : List Node) :
    findInBranches? name branches = branches.findSome? (findProperty? name) := by
  induction branches with
  | nil => rfl
  | cons branch rest ih =>
    rw [findInBranches?, List.findSome?_cons, ih]
    cases findProperty? name branch <;> rfl

theorem findInCombinations?_eq (name : String) (combinations : List (Combinator × List Node)) :
    findInCombinations? name combinations =
      ((combinations.filter fun c => c.1 ≠ .not).flatMap Prod.snd).findSome? (findProperty? name) := by
  induction combinations with
  | nil => rfl
  | cons c rest ih =>
    rw [findInCombinations?, List.filter_cons, ih]
    by_cases h : c.1 = .not
    · rw [if_pos h, if_neg (by simpa using h)]
    · rw [if_neg h, if_pos (by simpa using h), List.flatMap_cons, List.findSome?_append, findInBranches?_eq]

/-- A search asks the node first, and then its branches one after the other. -/
theorem findProperty?_eq (name : String) (node : Node) :
    findProperty? name node = (node.property? name).or (node.combined.findSome? (findProperty? name)) := by
  cases node with
  | reference target => rfl
  | schema rules properties items additional combinations =>
    rw [findProperty?, findInCombinations?_eq]
    rfl

theorem Child.of_mem_combined {node branch : Node} (h : branch ∈ node.combined) : node.Child branch := by
  obtain ⟨c, hc, hb⟩ := List.mem_flatMap.1 h
  exact .branch (List.mem_filter.1 hc).1 hb

theorem findProperty?_of_property? {name : String} {node child : Node} (h : node.property? name = some child) :
    findProperty? name node = some child := by
  rw [findProperty?_eq, h, Option.some_or]

/-! ## Searches -/

section Search

variable {α : Type} {branches : Node → List Node} {own search : Node → Option α}

/-- What a search through branches finds, is the own one of a node below. -/
theorem exists_of_search (hsearch : ∀ node, search node = (own node).or ((branches node).findSome? search))
    (hchild : ∀ {node branch}, branch ∈ branches node → node.Child branch) {node : Node} {a : α}
    (h : search node = some a) :
    ∃ below, Relation.ReflTransGen (fun node branch => branch ∈ branches node) node below ∧ own below = some a := by
  rw [hsearch, Option.or_eq_some_iff] at h
  rcases h with hown | ⟨-, hbranch⟩
  · exact ⟨node, .refl, hown⟩
  · obtain ⟨branch, hb, hfound⟩ := List.exists_of_findSome?_eq_some hbranch
    have := (hchild hb).count_lt
    obtain ⟨below, hto, hbelow⟩ := exists_of_search hsearch hchild hfound
    exact ⟨below, .head hb hto, hbelow⟩
termination_by node.count

theorem exists_search (hsearch : ∀ node, search node = (own node).or ((branches node).findSome? search))
    {node below : Node} {a : α} (hto : Relation.ReflTransGen (fun node branch => branch ∈ branches node) node below)
    (h : own below = some a) : ∃ found, search node = some found := by
  induction hto using Relation.ReflTransGen.head_induction_on with
  | refl => exact ⟨a, by rw [hsearch, h, Option.some_or]⟩
  | @head node branch hb _ ih =>
    obtain ⟨found, hf⟩ := ih
    rw [hsearch]
    cases own node with
    | some own => exact ⟨own, rfl⟩
    | none =>
      rw [Option.none_or]
      exact Option.isSome_iff_exists.1 (List.findSome?_isSome_iff.2 ⟨branch, hb, by rw [hf]; rfl⟩)

end Search

/-! ## Declarations -/

/-- A node leads to another one through branches that a search goes through. -/
abbrev CombinesTo : Node → Node → Prop := Relation.ReflTransGen fun node branch => branch ∈ node.combined

def Declares (node : Node) (name : String) (child : Node) : Prop :=
  ∃ below, node.CombinesTo below ∧ below.property? name = some child

section Declared

variable {name : String} {node child : Node}

theorem declares_iff :
    node.Declares name child ↔
      node.property? name = some child ∨ ∃ branch ∈ node.combined, branch.Declares name child := by
  constructor
  · rintro ⟨below, hto, hp⟩
    rcases Relation.ReflTransGen.cases_head hto with rfl | ⟨branch, hb, hto⟩
    · exact .inl hp
    · exact .inr ⟨branch, hb, below, hto, hp⟩
  · rintro (hp | ⟨branch, hb, below, hto, hp⟩)
    · exact ⟨node, .refl, hp⟩
    · exact ⟨below, .head hb hto, hp⟩

theorem declares_of_findProperty? (h : findProperty? name node = some child) : node.Declares name child :=
  exists_of_search (findProperty?_eq name) .of_mem_combined h

end Declared

end Node

end Schemata
