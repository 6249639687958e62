import Schemata.Proofs.Example.Absorb
import Schemata.Proofs.Field.Agreement

/-!
# A search without alternatives

* `Node.JoinsTo` : a node leads to another one through branches of an `allOf`; in order, these are the branches that are
  merged (`Node.holdsWith_iff_joinsTo`);
* `Node.isRequired_absorb` : a name is required by a node with an absorbed one if either requires it;
* `Node.property?_merge_of_joined` : without alternatives, a search finds what the merged node declares;
* `Node.isRequired_merge_iff` : the merged node requires what any node does that it is merged from;
* `Node.merge_agrees_with_search` : so merging and searching choose the same schema for each name.
-/

namespace Schemata

namespace Node

/-! ## The tree of an `allOf` -/

/-- A node leads to another one through branches of an `allOf`, branches of branches included. -/
abbrev JoinsTo : Node → Node → Prop :=
  Relation.ReflTransGen fun node branch => ∃ branches, (.allOf, branches) ∈ node.combinations ∧ branch ∈ branches

/-- What all nodes have that a schema leads to, the schema has, and all nodes have that its branches lead to. -/
theorem forall_joinsTo_iff {P : Node → Prop} {rules : Rules} {properties : List (String × Node)} {items : Option Node}
    {additional : Additional Node} {combinations : List (Combinator × List Node)} :
    (∀ below, (schema rules properties items additional combinations).JoinsTo below → P below) ↔
      P (schema rules properties items additional combinations) ∧
        ∀ c ∈ combinations, c.1 = .allOf → ∀ branch ∈ c.2, ∀ below, branch.JoinsTo below → P below := by
  constructor
  · refine fun h => ⟨h _ .refl, fun c hc hk branch hb below hto => h below (.head ⟨c.2, ?_, hb⟩ hto)⟩
    exact hk ▸ hc
  · rintro ⟨hnode, hbranches⟩ below hto
    rcases hto.cases_head with rfl | ⟨branch, ⟨branches, hc, hb⟩, hto⟩
    · exact hnode
    · exact hbranches _ hc rfl branch hb below hto

theorem mem_allOfBranches_iff {node branch : Node} (h : node.InOrder) :
    branch ∈ node.allOfBranches ↔ ∃ branches, (.allOf, branches) ∈ node.combinations ∧ branch ∈ branches := by
  refine ⟨mem_allOfBranches, ?_⟩
  rintro ⟨branches, hc, hb⟩
  rcases h.cases with ⟨first, others, hcombinations, hothers⟩ | hall
  · obtain rfl : branches = first := by
      rw [hcombinations] at hc
      rcases List.mem_cons.1 hc with heq | hc
      · exact (Prod.mk.inj heq).2
      · exact absurd rfl (hothers _ hc)
    have hj : joins (.allOf, branches) = true := by
      cases hfalse : joins (.allOf, branches) with
      | true => rfl
      | false =>
        have hnil : branches = [] := joins_eq_false_iff.1 hfalse rfl
        exact absurd (hnil ▸ hb) List.not_mem_nil
    rw [allOfBranches, hcombinations, List.find?_cons_of_pos hj]
    exact hb
  · exact absurd rfl (hall _ hc)

/-- In order, the branches that are merged are those of any `allOf`. -/
theorem holdsWith_iff_joinsTo {node below : Node} (h : node.Everywhere InOrder) :
    node.HoldsWith below ↔ node.JoinsTo below := by
  constructor
  · exact Relation.ReflTransGen.mono (fun _ _ => mem_allOfBranches) _ _
  · intro hto
    induction hto using Relation.ReflTransGen.head_induction_on with
    | refl => exact .refl
    | @head node branch hb _ ih =>
      have hbranch := (mem_allOfBranches_iff h.here).2 hb
      exact .head hbranch (ih (h.child (.of_mem_allOfBranches hbranch)))

/-! ## Required names -/

theorem isRequired_absorb {target : Node} (h : ∀ name, target ≠ reference name) (branch : Node) (name : String) :
    (target.absorb branch).isRequired name = (target.isRequired name || branch.isRequired name) := by
  cases target with
  | reference other => exact absurd rfl (h other)
  | schema rules properties items additional combinations =>
    cases branch with
    | reference other => exact (Bool.or_false _).symm
    | schema =>
      refine Bool.eq_iff_iff.2 ?_
      rw [Bool.or_eq_true]
      simp only [isRequired, List.contains_iff_mem]
      exact Rules.mem_required_absorb_iff

theorem isRequired_merge_iff {node : Node} {name : String} :
    node.merge.isRequired name = true ↔ ∃ below, node.HoldsWith below ∧ below.isRequired name = true := by
  -- A required name as something that is found or not, so that it can be searched for.
  let own (node : Node) : Option Unit := if node.isRequired name then some () else none
  have hown : ∀ node, own node = some () ↔ node.isRequired name = true := by simp [own]
  have hsearch : ∀ node : Node,
      own node.merge = (own node).or (node.allOfBranches.findSome? fun branch => own branch.merge) := by
    refine merge_or (fun node => ?_) fun {target branch} h => ?_
    · cases node <;> rfl
    · simp only [own, isRequired_absorb h]
      cases target.isRequired name <;> rfl
  rw [← hown]
  constructor
  · intro h
    obtain ⟨below, hto, hbelow⟩ := exists_of_search hsearch .of_mem_allOfBranches h
    exact ⟨below, hto, (hown below).1 hbelow⟩
  · rintro ⟨below, hto, hbelow⟩
    obtain ⟨_, hfound⟩ := exists_search hsearch hto ((hown below).2 hbelow)
    exact hfound

/-! ## Properties -/

theorem property?_merge_of_joined {node : Node} (ho : node.Everywhere InOrder)
    (hjoined : ∀ below, node.HoldsWith below → below.alternatives = []) (name : String) :
    node.merge.property? name = findProperty? name node := by
  induction ho with
  | @intro node here below ih =>
    have hbranches : ∀ branch ∈ node.allOfBranches, branch.merge.property? name = findProperty? name branch :=
      fun branch hb => ih branch (.of_mem_allOfBranches hb) fun last hto => hjoined last (.head hb hto)
    have hfound : node.allOfBranches.findSome? (fun branch => branch.merge.property? name) =
        node.allOfBranches.findSome? (findProperty? name) :=
      calc
        _ = (node.allOfBranches.map fun branch => branch.merge.property? name).findSome? id :=
          List.findSome?_map.symm
        _ = (node.allOfBranches.map (findProperty? name)).findSome? id := by rw [List.map_congr_left hbranches]
        _ = _ := List.findSome?_map
    rw [property?_merge, findProperty?_eq, combined_eq here, hjoined node .refl, List.append_nil, hfound]

theorem alternatives_eq_nil {node : Node} (h : ∀ c ∈ node.combinations, c.1 ≠ .anyOf ∧ c.1 ≠ .oneOf) :
    node.alternatives = [] := by
  have hfilter : (node.combinations.filter fun c => c.1 = .anyOf ∨ c.1 = .oneOf) = [] :=
    List.filter_eq_nil_iff.2 fun c hc hor => (of_decide_eq_true hor).elim (h c hc).1 (h c hc).2
  rw [alternatives, hfilter, List.flatMap_nil]

/-- **Merging and searching choose the same schema for each name.** Where neither a node nor any branch that an `allOf`
leads to has alternatives, the merged node declares for each name what a search finds, or nothing if that finds nothing;
and it requires the names that any of these nodes requires. -/
theorem merge_agrees_with_search {path : String} {value : Json} {node : Node} (h : compileAt path value = .ok node)
    (hjoined : ∀ below, node.JoinsTo below → ∀ c ∈ below.combinations, c.1 ≠ .anyOf ∧ c.1 ≠ .oneOf) (name : String) :
    node.merge.property? name = findProperty? name node ∧
      (node.merge.isRequired name = true ↔ ∃ below, node.JoinsTo below ∧ below.isRequired name = true) := by
  have ho : node.Everywhere InOrder := everywhere_inOrder h
  have hnone : ∀ below, node.HoldsWith below → below.alternatives = [] :=
    fun below hto => alternatives_eq_nil (hjoined below ((holdsWith_iff_joinsTo ho).1 hto))
  constructor
  · exact property?_merge_of_joined ho hnone name
  · simp only [isRequired_merge_iff, holdsWith_iff_joinsTo ho]

def joinedSchema : Json :=
  .object [
    ("properties", .object [("name", .object [("type", .string "string")])]),
    ("allOf", .array [
      .object [
        ("required", .array [.string "open"]),
        ("allOf", .array [.object [("properties", .object [("open", .object [("type", .string "boolean")])])]])],
      .object [("properties", .object [
        ("name", .object [("type", .string "null")]), ("open", .object [("type", .string "null")])])]])]

def joinedOpen : Node := schema { kind := some .boolean } [] none .open []

def joinedNull : Node := schema { kind := some .null } [] none .open []

/-- The branch that requires a name and has a branch of its own. -/
def joinedBranch : Node :=
  schema { required := ["open"] } [] none .open [(.allOf, [schema {} [("open", joinedOpen)] none .open []])]

def joined : Node :=
  schema {} [("name", schema { kind := some .string } [] none .open [])] none .open
    [(.allOf, [joinedBranch, schema {} [("name", joinedNull), ("open", joinedNull)] none .open []])]

theorem merge_agrees_with_search_open :
    compile joinedSchema = .ok joined ∧
      (∀ below, joined.JoinsTo below → ∀ c ∈ below.combinations, c.1 ≠ .anyOf ∧ c.1 ≠ .oneOf) ∧
      joined.merge.property? "open" = some joinedOpen ∧ findProperty? "open" joined = some joinedOpen ∧
      joined.merge.isRequired "open" = true := by
  have hc : compile joinedSchema = .ok joined := rfl
  have hjoined : ∀ below, joined.JoinsTo below → ∀ c ∈ below.combinations, c.1 ≠ .anyOf ∧ c.1 ≠ .oneOf := by
    simp [joined, joinedBranch, joinedOpen, joinedNull, forall_joinsTo_iff, combinations]
  obtain ⟨hsame, hrequired⟩ := merge_agrees_with_search hc hjoined "open"
  have hfound : findProperty? "open" joined = some joinedOpen := rfl
  have hto : joined.JoinsTo joinedBranch := .single ⟨_, List.mem_cons_self .., List.mem_cons_self ..⟩
  exact ⟨hc, hjoined, hsame.trans hfound, hfound, hrequired.2 ⟨joinedBranch, hto, rfl⟩⟩

end Node

end Schemata
