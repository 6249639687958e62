import Mathlib.Data.List.Nodup
import Schemata.Example.Basic
import Schemata.Proofs.Schema.Normal

/-!
# Nodes with all that they must hold together

* `Node.merge` : a node with the branches of its first `allOf` absorbed, if it has some;
* `Node.merge_eq_foldl` : the branches are merged, and absorbed one after the other;
* `Node.merge_of_everywhere` : what absorbing keeps, a merged node has if each node has it;
* `Node.everywhere_of_child_merge` : what lies below a merged node lies below the node;
* `Node.merged?_merge` : in order, nothing is left to merge;
* `Node.merge_or` : what is found in a node first and in an absorbed one only then, is found in a merged node in this
  order; so are its properties, its items, its allowed values and its first alternative.
-/

namespace Schemata

namespace Node

/-- A node with the branches of its first `allOf` absorbed, if it has some. -/
def merge (node : Node) : Node := node.merged?.getD node

theorem merge_of_merged?_eq_none {node : Node} (h : node.merged? = none) : node.merge = node := by
  rw [merge, h, Option.getD_none]

theorem merge_of_merged?_eq_some {node merged : Node} (h : node.merged? = some merged) : node.merge = merged := by
  rw [merge, h, Option.getD_some]

theorem mergedEach_eq_map (branches : List Node) : mergedEach branches = branches.map merge := by
  induction branches with
  | nil => rw [mergedEach, List.map_nil]
  | cons branch rest ih => rw [mergedEach, ih, List.map_cons, merge]

theorem count_merge_le (node : Node) : node.merge.count ≤ node.count := by
  cases hm : node.merged? with
  | none => exact Nat.le_of_eq (congrArg count (merge_of_merged?_eq_none hm))
  | some merged =>
    rw [merge_of_merged?_eq_some hm]
    exact Nat.le_of_lt (count_lt_of_merged? hm)

/-! ## The first `allOf` -/

/-- The combination is an `allOf` with branches. -/
def joins (combination : Combinator × List Node) : Bool := combination.1 = .allOf ∧ !combination.2.isEmpty

def allOfBranches (node : Node) : List Node := ((node.combinations.find? joins).map Prod.snd).getD []

/-- The node without the first `allOf` that has branches. -/
def withoutAllOf : Node → Node
  | reference target => reference target
  | schema rules properties items additional combinations =>
    schema rules properties items additional (combinations.eraseP joins)

theorem takeAllOf?_eq (combinations : List (Combinator × List Node)) :
    takeAllOf? combinations =
      (combinations.find? joins).map fun c => (c.2.map merge, combinations.eraseP joins) := by
  induction combinations with
  | nil => rfl
  | cons entry rest ih =>
    rw [takeAllOf?, List.find?_cons, List.eraseP_cons]
    by_cases h : entry.1 = .allOf ∧ (!entry.2.isEmpty) = true
    · have hj : joins entry = true := decide_eq_true h
      rw [if_pos h, hj, mergedEach_eq_map]
      rfl
    · have hj : joins entry = false := decide_eq_false h
      rw [if_neg h, hj, ih]
      cases rest.find? joins <;> rfl

theorem merged?_schema (rules : Rules) (properties : List (String × Node)) (items : Option Node)
    (additional : Additional Node) (combinations : List (Combinator × List Node)) :
    (schema rules properties items additional combinations).merged? = (combinations.find? joins).map fun c =>
      (c.2.map merge).foldl absorb
        (schema rules properties items additional combinations).withoutAllOf := by
  rw [merged?, takeAllOf?_eq]
  cases combinations.find? joins <;> rfl

theorem merge_eq_foldl (node : Node) :
    node.merge = (node.allOfBranches.map merge).foldl absorb node.withoutAllOf := by
  cases node with
  | reference target => rfl
  | schema rules properties items additional combinations =>
    rw [merge, merged?_schema, allOfBranches]
    dsimp only [Node.combinations]
    cases hf : combinations.find? joins with
    | none =>
      have herase : combinations.eraseP joins = combinations :=
        List.eraseP_of_forall_not (List.find?_eq_none.1 hf)
      rw [withoutAllOf, herase]
      rfl
    | some c => rfl

theorem mem_allOfBranches {node branch : Node} (h : branch ∈ node.allOfBranches) :
    ∃ branches, (.allOf, branches) ∈ node.combinations ∧ branch ∈ branches := by
  unfold allOfBranches at h
  cases hf : node.combinations.find? joins with
  | none =>
    rw [hf] at h
    cases h
  | some c =>
    rw [hf] at h
    obtain ⟨combinator, branches⟩ := c
    have hj : joins (combinator, branches) = true := List.find?_some hf
    obtain ⟨rfl, -⟩ := of_decide_eq_true hj
    exact ⟨branches, List.mem_of_find?_eq_some hf, h⟩

theorem Child.of_mem_allOfBranches {node branch : Node} (h : branch ∈ node.allOfBranches) : node.Child branch := by
  obtain ⟨branches, hc, hb⟩ := mem_allOfBranches h
  exact .branch hc hb

/-! ## What merging keeps -/

/-- What absorbing keeps, a merged node has if each node has it but for its first `allOf`. -/
theorem merge_of_everywhere {P Q : Node → Prop} (hwithout : ∀ {node}, P node → Q node.withoutAllOf)
    (habsorb : ∀ {target branch}, Q target → Q branch → Q (target.absorb branch)) {node : Node}
    (h : node.Everywhere P) : Q node.merge := by
  induction h with
  | @intro node here _ ih =>
    rw [merge_eq_foldl]
    refine List.foldlRecOn _ _ (hwithout here) fun target ht branch hb => habsorb ht ?_
    obtain ⟨origin, ho, rfl⟩ := List.mem_map.1 hb
    exact ih origin (.of_mem_allOfBranches ho)

theorem combinations_withoutAllOf (node : Node) :
    node.withoutAllOf.combinations = node.combinations.eraseP joins := by
  cases node <;> rfl

theorem Child.of_withoutAllOf {node child : Node} (h : node.withoutAllOf.Child child) : node.Child child := by
  cases node with
  | reference target => exact h
  | schema rules properties items additional combinations =>
    cases h with
    | property h => exact .property h
    | items h => exact .items h
    | additional h => exact .additional h
    | branch h hb => exact .branch (List.mem_of_mem_eraseP h) hb

theorem mem_addMissing {properties others : List (String × Node)} {p : String × Node}
    (h : p ∈ addMissing properties others) : p ∈ properties ∨ p ∈ others := by
  induction others generalizing properties with
  | nil => exact .inl h
  | cons entry rest ih =>
    obtain ⟨name, node⟩ := entry
    rw [addMissing] at h
    split at h
    · exact (ih h).imp_right (List.mem_cons_of_mem _)
    · rcases ih h with h | h
      · refine (List.mem_append.1 h).imp_right fun h => ?_
        rw [List.mem_singleton.1 h]
        exact List.mem_cons_self ..
      · exact .inr (List.mem_cons_of_mem _ h)

theorem Child.of_absorb {target branch child : Node} (h : (target.absorb branch).Child child) :
    target.Child child ∨ branch.Child child := by
  cases target with
  | reference name => exact .inl h
  | schema rules properties items additional combinations =>
    cases branch with
    | reference name => exact .inl h
    | schema rules' properties' items' additional' combinations' =>
      cases h with
      | property h => exact (mem_addMissing h).imp .property .property
      | items h => exact (Option.or_eq_some_iff.1 h).imp .items fun h => .items h.2
      | additional h =>
        cases additional with
        | «open» => exact .inr (.additional h)
        | forbidden => cases h
        | constrained schema => exact .inl (.additional h)
      | branch h hb => exact (List.mem_append.1 h).imp (fun h => .branch h hb) fun h => .branch h hb

theorem everywhere_of_child_merge {P : Node → Prop} {node : Node} (h : node.Everywhere P) :
    ∀ child, node.merge.Child child → child.Everywhere P :=
  merge_of_everywhere (Q := fun n => ∀ child, n.Child child → child.Everywhere P)
    (fun h child hc => h child hc.of_withoutAllOf)
    (fun ht hb child hc => hc.of_absorb.elim (ht child) (hb child)) h.everywhere_children

theorem everywhere_merge {P : Node → Prop} (hwithout : ∀ {node}, P node → P node.withoutAllOf)
    (habsorb : ∀ {target branch}, P target → P branch → P (target.absorb branch)) {node : Node}
    (h : node.Everywhere P) : node.merge.Everywhere P :=
  .intro (merge_of_everywhere hwithout habsorb h) (everywhere_of_child_merge h)

theorem nodup_addMissing {properties others : List (String × Node)} (h : (properties.map Prod.fst).Nodup) :
    ((addMissing properties others).map Prod.fst).Nodup := by
  induction others generalizing properties with
  | nil => exact h
  | cons entry rest ih =>
    obtain ⟨name, node⟩ := entry
    rw [addMissing]
    by_cases hs : (properties.lookup name).isSome
    · rw [if_pos hs]
      exact ih h
    · rw [if_neg hs]
      refine ih ?_
      rw [List.map_append, List.map_singleton, List.nodup_append]
      refine ⟨h, List.nodup_singleton name, fun other ho name' hn heq => hs ?_⟩
      obtain rfl := List.mem_singleton.1 hn
      obtain ⟨p, hp, rfl⟩ := List.mem_map.1 ho
      exact Option.isSome_iff_exists.2 ⟨p.2, Names.lookup_of_mem h (heq ▸ hp)⟩

theorem NamesHere.withoutAllOf {node : Node} (h : node.NamesHere) : node.withoutAllOf.NamesHere := by
  cases node with
  | reference target => exact h
  | schema => exact ⟨h.properties, h.allowed⟩

theorem NamesHere.absorb {target branch : Node} (ht : target.NamesHere) (hb : branch.NamesHere) :
    (target.absorb branch).NamesHere := by
  cases target with
  | reference name => exact ht
  | schema rules properties items additional combinations =>
    cases branch with
    | reference name => exact ht
    | schema rules' properties' items' additional' combinations' =>
      refine ⟨nodup_addMissing ht.properties, fun values hv => ?_⟩
      have hor : rules.allowed.or rules'.allowed = some values := hv
      exact (Option.or_eq_some_iff.1 hor).elim (ht.allowed values) fun h => hb.allowed values h.2

theorem nodup_properties_merge {node : Node} (h : node.Everywhere NamesHere) :
    (node.merge.properties.map Prod.fst).Nodup :=
  (merge_of_everywhere (Q := NamesHere) NamesHere.withoutAllOf NamesHere.absorb h).properties

theorem kind_absorb {target branch : Rules} {kind : Kind} (h : (target.absorb branch).kind = some kind) :
    target.kind = some kind ∨ branch.kind = some kind := by
  unfold Rules.absorb at h
  dsimp only at h
  split at h
  · exact .inr h
  · exact .inr h
  · next own _ ho => exact .inl (ho.trans h)

/-! ## Nothing to merge -/

def HasNoAllOf (node : Node) : Prop := ∀ branches, (.allOf, branches) ∈ node.combinations → branches = []

theorem joins_eq_false_iff {c : Combinator × List Node} : joins c = false ↔ (c.1 = .allOf → c.2 = []) := by
  simp [joins]

theorem merged?_eq_none_iff {node : Node} : node.merged? = none ↔ node.HasNoAllOf := by
  have hfind : node.combinations.find? joins = none ↔ node.HasNoAllOf := by
    simp only [List.find?_eq_none, Bool.not_eq_true, joins_eq_false_iff]
    exact ⟨fun h branches hb => h _ hb rfl, fun h c hc heq => h c.2 (heq ▸ hc)⟩
  rw [← hfind]
  cases node with
  | reference target => exact ⟨fun _ => rfl, fun _ => by rw [merged?]⟩
  | schema rules properties items additional combinations => rw [merged?_schema, Option.map_eq_none_iff]; rfl

/-- The combinations stand in the order in which they are read, each combinator at most once. -/
def InOrder (node : Node) : Prop :=
  (node.combinations.map Prod.fst).Sublist [.allOf, .anyOf, .oneOf, .not]

theorem everywhere_inOrder {path : String} {value : Json} {node : Node} (h : compileAt path value = .ok node) :
    node.Everywhere InOrder :=
  everywhere_of_compileAt (Q := fun _ => True) (fun _ _ => trivial) (fun h _ => (normalHere_of_compileAt h).order) h
    trivial

theorem InOrder.cases {node : Node} (h : node.InOrder) :
    (∃ branches others, node.combinations = (.allOf, branches) :: others ∧ ∀ c ∈ others, c.1 ≠ .allOf) ∨
      ∀ c ∈ node.combinations, c.1 ≠ .allOf := by
  have hothers : ∀ {others : List (Combinator × List Node)},
      (others.map Prod.fst).Sublist [.anyOf, .oneOf, .not] → ∀ c ∈ others, c.1 ≠ .allOf := by
    intro others hs c hc heq
    have := hs.subset (List.mem_map_of_mem hc)
    rw [heq] at this
    simp at this
  unfold InOrder at h
  cases hc : node.combinations with
  | nil => exact .inr nofun
  | cons first others =>
    rw [hc, List.map_cons] at h
    by_cases hf : first.1 = .allOf
    · obtain ⟨combinator, branches⟩ := first
      obtain rfl : combinator = .allOf := hf
      exact .inl ⟨branches, others, rfl, hothers (List.cons_sublist_cons.1 h)⟩
    · right
      rcases List.sublist_cons_iff.1 h with h | ⟨rest, heq, -⟩
      · rw [← List.map_cons] at h
        exact hothers h
      · exact absurd (List.cons.inj heq).1 hf

theorem joins_of_ne {c : Combinator × List Node} (h : c.1 ≠ .allOf) : joins c = false :=
  joins_eq_false_iff.2 fun heq => absurd heq h

theorem InOrder.hasNoAllOf_withoutAllOf {node : Node} (h : node.InOrder) : node.withoutAllOf.HasNoAllOf := by
  intro branches hb
  rw [combinations_withoutAllOf] at hb
  rcases h.cases with ⟨first, others, hc, hothers⟩ | hall
  · rw [hc, List.eraseP_cons] at hb
    cases hj : joins (.allOf, first) with
    | true =>
      rw [hj, cond_true] at hb
      exact absurd rfl (hothers _ hb)
    | false =>
      rw [hj, cond_false] at hb
      rcases List.mem_cons.1 hb with heq | hb
      · cases heq
        exact joins_eq_false_iff.1 hj rfl
      · exact absurd rfl (hothers _ (List.mem_of_mem_eraseP hb))
  · exact absurd rfl (hall _ (List.mem_of_mem_eraseP hb))

theorem HasNoAllOf.absorb {target branch : Node} (ht : target.HasNoAllOf) (hb : branch.HasNoAllOf) :
    (target.absorb branch).HasNoAllOf := by
  cases target with
  | reference name => exact ht
  | schema rules properties items additional combinations =>
    cases branch with
    | reference name => exact ht
    | schema rules' properties' items' additional' combinations' =>
      intro branches h
      exact (List.mem_append.1 h).elim (ht branches) (hb branches)

theorem merged?_merge {node : Node} (h : node.Everywhere InOrder) : node.merge.merged? = none :=
  merged?_eq_none_iff.2 (merge_of_everywhere InOrder.hasNoAllOf_withoutAllOf HasNoAllOf.absorb h)

/-! ## What a merged node declares -/

theorem absorb_ne_reference {target : Node} (h : ∀ name, target ≠ reference name) (branch : Node) :
    ∀ name, target.absorb branch ≠ reference name := by
  cases target with
  | reference name => exact absurd rfl (h name)
  | schema => cases branch <;> exact nofun

theorem foldl_absorb_or {α : Type} {f : Node → Option α}
    (hf : ∀ {target branch : Node}, (∀ name, target ≠ reference name) →
      f (target.absorb branch) = (f target).or (f branch))
    {target : Node} (h : ∀ name, target ≠ reference name) (branches : List Node) :
    f (branches.foldl absorb target) = (f target).or (branches.findSome? f) := by
  induction branches generalizing target with
  | nil => rw [List.foldl_nil, List.findSome?_nil, Option.or_none]
  | cons branch rest ih =>
    rw [List.foldl_cons, ih (absorb_ne_reference h branch), hf h, List.findSome?_cons, Option.or_assoc]
    cases f branch <;> rfl

/-- What is found in a node first, and in an absorbed one only then, is found in a merged node in this order. -/
theorem merge_or {α : Type} {f : Node → Option α} (hwithout : ∀ node : Node, f node.withoutAllOf = f node)
    (hf : ∀ {target branch : Node}, (∀ name, target ≠ reference name) →
      f (target.absorb branch) = (f target).or (f branch)) (node : Node) :
    f node.merge = (f node).or (node.allOfBranches.findSome? fun branch => f branch.merge) := by
  cases node with
  | reference target => exact (Option.or_none ..).symm
  | schema rules properties items additional combinations =>
    have hschema : ∀ name,
        (schema rules properties items additional combinations).withoutAllOf ≠ reference name := by
      intro name h
      cases h
    rw [merge_eq_foldl, foldl_absorb_or hf hschema, hwithout, List.findSome?_map]
    rfl

theorem lookup_addMissing (properties others : List (String × Node)) (name : String) :
    (addMissing properties others).lookup name = (properties.lookup name).or (others.lookup name) := by
  induction others generalizing properties with
  | nil => rw [addMissing, List.lookup_nil, Option.or_none]
  | cons entry rest ih =>
    obtain ⟨other, node⟩ := entry
    rw [addMissing, Names.lookup_cons]
    by_cases h : (properties.lookup other).isSome
    · rw [if_pos h, ih]
      by_cases hn : name = other
      · subst hn
        obtain ⟨found, hf⟩ := Option.isSome_iff_exists.1 h
        rw [hf, Option.some_or, Option.some_or]
      · rw [if_neg hn]
    · rw [if_neg h, ih, List.lookup_append, Names.lookup_cons, List.lookup_nil, Option.or_assoc]
      by_cases hn : name = other
      · rw [if_pos hn, if_pos hn, Option.some_or]
      · rw [if_neg hn, if_neg hn, Option.none_or]

theorem property?_merge (name : String) (node : Node) :
    node.merge.property? name =
      (node.property? name).or (node.allOfBranches.findSome? fun branch => branch.merge.property? name) := by
  refine merge_or (f := fun node => node.property? name) (fun node => ?_) (fun {target branch} h => ?_) node
  · cases node <;> rfl
  · cases target with
    | reference other => exact absurd rfl (h other)
    | schema rules properties items additional combinations =>
      cases branch with
      | reference other => exact (Option.or_none ..).symm
      | schema => exact lookup_addMissing ..

theorem items_merge (node : Node) :
    node.merge.items = node.items.or (node.allOfBranches.findSome? fun branch => branch.merge.items) := by
  refine merge_or (fun node => ?_) (fun {target branch} h => ?_) node
  · cases node <;> rfl
  · cases target with
    | reference other => exact absurd rfl (h other)
    | schema rules properties items additional combinations =>
      cases branch with
      | reference other => exact (Option.or_none ..).symm
      | schema => rfl

theorem allowed_merge (node : Node) :
    node.merge.rules.allowed =
      node.rules.allowed.or (node.allOfBranches.findSome? fun branch => branch.merge.rules.allowed) := by
  refine merge_or (f := fun node => node.rules.allowed) (fun node => ?_) (fun {target branch} h => ?_) node
  · cases node <;> rfl
  · cases target with
    | reference other => exact absurd rfl (h other)
    | schema rules properties items additional combinations =>
      cases branch with
      | reference other => exact (Option.or_none ..).symm
      | schema => rfl

/-- The branches of each `anyOf` and `oneOf`. -/
def alternatives (node : Node) : List Node :=
  (node.combinations.filter fun c => c.1 = .anyOf ∨ c.1 = .oneOf).flatMap Prod.snd

theorem mem_alternatives {node branch : Node} (h : branch ∈ node.alternatives) :
    ∃ combinator branches, (combinator, branches) ∈ node.combinations ∧
      (combinator = .anyOf ∨ combinator = .oneOf) ∧ branch ∈ branches := by
  obtain ⟨⟨combinator, branches⟩, hc, hb⟩ := List.mem_flatMap.1 h
  obtain ⟨hc, ha⟩ := List.mem_filter.1 hc
  exact ⟨combinator, branches, hc, of_decide_eq_true ha, hb⟩

theorem Child.of_mem_alternatives {node branch : Node} (h : branch ∈ node.alternatives) : node.Child branch := by
  obtain ⟨_, _, hc, -, hb⟩ := mem_alternatives h
  exact .branch hc hb

theorem firstAlternative?_eq_head? (node : Node) : node.firstAlternative? = node.alternatives.head? := by
  unfold firstAlternative? alternatives
  induction node.combinations with
  | nil => rfl
  | cons c rest ih =>
    obtain ⟨combinator, branches⟩ := c
    rw [List.findSome?_cons, List.filter_cons]
    dsimp only
    by_cases h : combinator = .anyOf ∨ combinator = .oneOf
    · rw [if_pos h, if_pos (decide_eq_true h), List.flatMap_cons, List.head?_append, ih]
      cases branches.head? <;> rfl
    · rw [if_neg h, if_neg (by simpa using h), ih]

theorem Child.of_firstAlternative? {node branch : Node} (h : node.firstAlternative? = some branch) :
    node.Child branch := by
  rw [firstAlternative?_eq_head?] at h
  exact .of_mem_alternatives (List.mem_of_head? h)

theorem firstAlternative?_merge (node : Node) :
    node.merge.firstAlternative? =
      node.firstAlternative?.or (node.allOfBranches.findSome? fun branch => branch.merge.firstAlternative?) := by
  refine merge_or (fun node => ?_) (fun {target branch} h => ?_) node
  · unfold firstAlternative?
    rw [combinations_withoutAllOf]
    induction node.combinations with
    | nil => rfl
    | cons c rest ih =>
      rw [List.eraseP_cons]
      cases hj : joins c with
      | true =>
        obtain ⟨combinator, branches⟩ := c
        obtain ⟨rfl, -⟩ := of_decide_eq_true hj
        rfl
      | false => rw [cond_false, List.findSome?_cons, List.findSome?_cons, ih]
  · cases target with
    | reference other => exact absurd rfl (h other)
    | schema rules properties items additional combinations =>
      cases branch with
      | reference other => exact (Option.or_none ..).symm
      | schema => exact List.findSome?_append

end Node

end Schemata
