import Schemata.Proofs.Example.Merged
import Schemata.Proofs.Field.Search

/-!
# What a search finds in place of a merged node

* `Node.combined_eq` : a search goes through the branches of an `allOf` first, and then through the alternatives;
* `Node.DeclaresAlways` : a property is declared whichever alternatives are taken; the merged node has one then;
* `Node.AgreesWith` : what one branch declares in alternatives only, another one does not declare otherwise;
* `Node.findProperty?_of_merge`, `Node.findProperty?_of_firstAlternative?` : if branches agree with what is behind them,
  a search finds what the merged node declares, and what its first alternative does.
-/

namespace Schemata

namespace Node

/-! ## The order of a search -/

theorem mem_combined_of_mem_allOfBranches {node branch : Node} (h : branch ∈ node.allOfBranches) :
    branch ∈ node.combined := by
  obtain ⟨branches, hc, hb⟩ := mem_allOfBranches h
  exact List.mem_flatMap.2 ⟨_, List.mem_filter.2 ⟨hc, rfl⟩, hb⟩

theorem mem_combined_of_mem_alternatives {node branch : Node} (h : branch ∈ node.alternatives) :
    branch ∈ node.combined := by
  obtain ⟨combinator, branches, hc, rfl | rfl, hb⟩ := mem_alternatives h
  · exact List.mem_flatMap.2 ⟨_, List.mem_filter.2 ⟨hc, rfl⟩, hb⟩
  · exact List.mem_flatMap.2 ⟨_, List.mem_filter.2 ⟨hc, rfl⟩, hb⟩

theorem filter_ne_not {combinations : List (Combinator × List Node)} (h : ∀ c ∈ combinations, c.1 ≠ .allOf) :
    (combinations.filter fun c => c.1 ≠ .not) = combinations.filter fun c => c.1 = .anyOf ∨ c.1 = .oneOf := by
  refine List.filter_congr fun c hc => ?_
  have hne := h c hc
  cases hk : c.1 with
  | allOf => exact absurd hk hne
  | _ => rfl

theorem find?_joins_eq_none {combinations : List (Combinator × List Node)} (h : ∀ c ∈ combinations, c.1 ≠ .allOf) :
    combinations.find? joins = none :=
  List.find?_eq_none.2 fun c hc => Bool.eq_false_iff.1 (joins_of_ne (h c hc))

/-- In order, a search goes through the branches of an `allOf` first, and then through the alternatives. -/
theorem combined_eq {node : Node} (h : node.InOrder) : node.combined = node.allOfBranches ++ node.alternatives := by
  unfold combined allOfBranches alternatives
  rcases h.cases with ⟨branches, others, hc, hothers⟩ | hall
  · rw [hc, List.filter_cons, List.filter_cons, filter_ne_not hothers, List.find?_cons]
    cases hj : joins (.allOf, branches) with
    | true => rfl
    | false =>
      obtain rfl : branches = [] := joins_eq_false_iff.1 hj rfl
      rw [find?_joins_eq_none hothers]
      rfl
  · rw [find?_joins_eq_none hall, filter_ne_not hall]
    rfl

/-! ## Declarations -/

/-- A node leads to another one through branches that hold together with it. -/
abbrev HoldsWith : Node → Node → Prop := Relation.ReflTransGen fun node branch => branch ∈ node.allOfBranches

theorem HoldsWith.combinesTo {node below : Node} (h : node.HoldsWith below) : node.CombinesTo below :=
  Relation.ReflTransGen.mono (fun _ _ => mem_combined_of_mem_allOfBranches) _ _ h

/-- The property is declared whichever alternatives are taken. -/
def DeclaresAlways (node : Node) (name : String) (child : Node) : Prop :=
  ∃ below, node.HoldsWith below ∧ below.property? name = some child

/-- What is always declared, or something else of that name, is declared by the merged node. -/
theorem DeclaresAlways.exists_property?_merge {name : String} {node child : Node} (h : node.DeclaresAlways name child) :
    ∃ found, node.merge.property? name = some found := by
  obtain ⟨below, hto, hp⟩ := h
  exact exists_search (property?_merge name) hto hp

/-! ## Agreement -/

/-- What the first declares in alternatives only, the second does not declare otherwise. -/
def AgreesWith (first second : Node) : Prop :=
  ∀ name child other, (∀ always, ¬ first.DeclaresAlways name always) → first.Declares name child →
    second.Declares name other → other = child

/-- The branches of an `allOf` agree with those behind them, and with the alternatives of the node. -/
structure Agreeing (node : Node) : Prop where
  branches : node.allOfBranches.Pairwise AgreesWith
  alternatives : ∀ branch ∈ node.allOfBranches, ∀ other ∈ node.alternatives, branch.AgreesWith other

theorem agreeing_of_allOfBranches_eq_nil {node : Node} (h : node.allOfBranches = []) : node.Agreeing where
  branches := h ▸ .nil
  alternatives _ hb := absurd (h ▸ hb) List.not_mem_nil

theorem AgreesWith.eq_of_found {first second child other : Node} {name : String} (h : first.AgreesWith second)
    (hnone : first.merge.property? name = none) (hf : findProperty? name first = some child)
    (hs : findProperty? name second = some other) : other = child := by
  refine h name child other (fun always ha => ?_) (declares_of_findProperty? hf) (declares_of_findProperty? hs)
  obtain ⟨found, hfound⟩ := ha.exists_property?_merge
  exact absurd (hnone.symm.trans hfound) nofun

section Found

variable {name : String} {node child : Node}

/-- What is found in a branch is found in the node, if the node does not declare it by itself, and each branch before
has it in alternatives only and agrees with this one. -/
theorem findProperty?_of_agreesWith (hown : node.property? name = none) {front rest : List Node} {branch : Node}
    (hc : node.combined = front ++ branch :: rest) (hfront : ∀ before ∈ front, before.merge.property? name = none)
    (hagrees : ∀ before ∈ front, before.AgreesWith branch) (h : findProperty? name branch = some child) :
    findProperty? name node = some child := by
  rw [findProperty?_eq, hown, Option.none_or, hc, List.findSome?_append, List.findSome?_cons, h]
  cases hf : front.findSome? (findProperty? name) with
  | none => rfl
  | some found =>
    obtain ⟨before, hm, hfound⟩ := List.exists_of_findSome?_eq_some hf
    rw [(hagrees before hm).eq_of_found (hfront before hm) hfound h]
    rfl

theorem findProperty?_of_branch (ho : node.InOrder) (ha : node.Agreeing) (hown : node.property? name = none)
    {front rest : List Node} {branch : Node} (hb : node.allOfBranches = front ++ branch :: rest)
    (hfront : ∀ before ∈ front, before.merge.property? name = none) (h : findProperty? name branch = some child) :
    findProperty? name node = some child := by
  have hc : node.combined = front ++ branch :: (rest ++ node.alternatives) := by
    rw [combined_eq ho, hb, List.append_assoc, List.cons_append]
  have hpairs := (List.pairwise_append.1 (hb ▸ ha.branches)).2.2
  exact findProperty?_of_agreesWith hown hc hfront
    (fun before hm => hpairs before hm branch (List.mem_cons_self ..)) h

theorem findProperty?_of_merge (ho : node.Everywhere InOrder) (ha : node.Everywhere Agreeing)
    (h : node.merge.property? name = some child) : findProperty? name node = some child := by
  induction ha with
  | @intro node ha _ ih =>
    rw [property?_merge, Option.or_eq_some_iff] at h
    rcases h with hown | ⟨hown, hbranch⟩
    · exact findProperty?_of_property? hown
    · obtain ⟨front, branch, rest, hb, hfound, hfront⟩ := List.findSome?_eq_some_iff.1 hbranch
      have hchild : node.Child branch := .of_mem_allOfBranches (hb ▸ List.mem_append_right _ (List.mem_cons_self ..))
      exact findProperty?_of_branch ho.here ha hown hb hfront (ih branch hchild (ho.child hchild) hfound)

/-- What the first alternative of a merged node declares is found in the node, if the merged node does not declare it
by itself. -/
theorem findProperty?_of_firstAlternative? {branch : Node} (ho : node.Everywhere InOrder)
    (ha : node.Everywhere Agreeing) (hnone : node.merge.property? name = none)
    (hf : node.merge.firstAlternative? = some branch) (h : findProperty? name branch = some child) :
    findProperty? name node = some child := by
  induction ha with
  | @intro node ha _ ih =>
    rw [property?_merge, Option.or_eq_none_iff] at hnone
    obtain ⟨hown, hbranches⟩ := hnone
    have hmerged : ∀ before ∈ node.allOfBranches, before.merge.property? name = none :=
      List.findSome?_eq_none_iff.1 hbranches
    rw [firstAlternative?_merge, Option.or_eq_some_iff] at hf
    rcases hf with hf | ⟨-, hf⟩
    · rw [firstAlternative?_eq_head?, List.head?_eq_some_iff] at hf
      obtain ⟨rest, hrest⟩ := hf
      have hc : node.combined = node.allOfBranches ++ branch :: rest := by rw [combined_eq ho.here, hrest]
      have hm : branch ∈ node.alternatives := hrest ▸ List.mem_cons_self ..
      exact findProperty?_of_agreesWith hown hc hmerged (fun before hb => ha.alternatives before hb branch hm) h
    · obtain ⟨front, origin, rest, hb, hfirst, -⟩ := List.findSome?_eq_some_iff.1 hf
      have hm : origin ∈ node.allOfBranches := hb ▸ List.mem_append_right _ (List.mem_cons_self ..)
      have hchild : node.Child origin := .of_mem_allOfBranches hm
      have hfound := ih origin hchild (ho.child hchild) (hmerged origin hm) hfirst
      exact findProperty?_of_branch ho.here ha hown hb
        (fun before hbefore => hmerged before (hb ▸ List.mem_append_left _ hbefore)) hfound

end Found

end Node

end Schemata
