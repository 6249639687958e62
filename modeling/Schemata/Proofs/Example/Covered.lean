import Schemata.Proofs.Example.Absorb
import Schemata.Proofs.Example.Calls
import Schemata.Proofs.Field.Agreement
import Schemata.Proofs.Field.Resolve

/-!
# The fields of an example are fields of its schema

* `Json.atPath?` : the value at a path of names and positions;
* `Node.DeclaresAll` : an example takes from the node only what it declares; merging keeps this;
* `Node.Covers` : a path leads to a schema, or into an array whose items a search does not see;
* `Node.covers_of_atPath?` : the node covers each path in its example, wherever it stands;
* `Node.resolve_of_atPath?_toExample` : so the lookup of each such path is known;
* `Node.not_resolved_of_atPath?` : without the provisos it may lead nowhere.
-/

namespace Schemata

namespace Json

def part? : Json → Segment → Option Json
  | object members, .name name => members.lookup name
  | array values, .index i => values[i]?
  | _, _ => none

/-- The value at a path of names and positions. -/
def atPath? (value : Json) (path : FieldPath) : Option Json := path.foldlM part? value

theorem atPath?_cons_eq_some {value part : Json} {segment : Segment} {rest : FieldPath} :
    value.atPath? (segment :: rest) = some part ↔
      ∃ next, value.part? segment = some next ∧ next.atPath? rest = some part := by
  unfold atPath?
  rw [List.foldlM_cons]
  exact Option.bind_eq_some_iff

end Json

namespace Node

/-! ## What an example takes from a node -/

/-- An example takes from the node only what it declares: the node lists no allowed values, constrains no further
properties, declares what it requires, and says what the items are if it asks for an array. -/
structure DeclaresAll (node : Node) : Prop where
  allowed : node.rules.allowed = none
  additional : ∀ child, node.additional ≠ .constrained child
  required : ∀ name ∈ node.rules.required, node.property? name ≠ none
  items : node.rules.kind = some .array → node.items ≠ none

theorem DeclaresAll.withoutAllOf {node : Node} (h : node.DeclaresAll) : node.withoutAllOf.DeclaresAll := by
  cases node with
  | reference target => exact h
  | schema => exact ⟨h.allowed, h.additional, h.required, h.items⟩

theorem or_ne_none {α : Type} {a b : Option α} (h : a ≠ none ∨ b ≠ none) : a.or b ≠ none := by
  rw [ne_eq, Option.or_eq_none_iff, not_and_or]
  exact h

theorem DeclaresAll.absorb {target branch : Node} (ht : target.DeclaresAll) (hb : branch.DeclaresAll) :
    (target.absorb branch).DeclaresAll := by
  cases target with
  | reference name => exact ht
  | schema rules properties items additional combinations =>
    cases branch with
    | reference name => exact ht
    | schema rules' properties' items' additional' combinations' =>
      refine ⟨Option.or_eq_none_iff.2 ⟨ht.allowed, hb.allowed⟩, fun child => ?_, fun name hn => ?_, fun hk => ?_⟩
      · cases additional with
        | «open» => exact hb.additional child
        | forbidden => exact nofun
        | constrained schema => exact absurd rfl (ht.additional schema)
      · have hlookup : properties.lookup name ≠ none ∨ properties'.lookup name ≠ none :=
          (Rules.mem_required_absorb_iff.1 hn).imp (ht.required name) (hb.required name)
        have hor := or_ne_none hlookup
        rwa [← lookup_addMissing] at hor
      · exact or_ne_none ((kind_absorb hk).imp ht.items hb.items)

theorem declaresAll_merge {node : Node} (h : node.Everywhere DeclaresAll) : node.merge.DeclaresAll :=
  merge_of_everywhere DeclaresAll.withoutAllOf DeclaresAll.absorb h

theorem DeclaresAll.items_of_effectiveKind? {node : Node} (h : node.DeclaresAll)
    (hk : node.effectiveKind? = some .array) : node.items ≠ none :=
  (kind_or_items_of_effectiveKind? hk).elim h.items id

/-- What the steps of an example need, of a node and of all below it. -/
structure Searchable (node : Node) : Prop where
  names : node.Everywhere NamesHere
  order : node.Everywhere InOrder
  declared : node.Everywhere DeclaresAll
  agreeing : node.Everywhere Agreeing

theorem Searchable.of_child_merge {node child : Node} (h : node.Searchable) (hc : node.merge.Child child) :
    child.Searchable where
  names := everywhere_of_child_merge h.names child hc
  order := everywhere_of_child_merge h.order child hc
  declared := everywhere_of_child_merge h.declared child hc
  agreeing := everywhere_of_child_merge h.agreeing child hc

theorem Searchable.exampleAt_eq {node : Node} (h : node.Searchable) (options : ExampleOptions) (depth : Nat) :
    exampleAt options depth node = node.merge.exampleOfKind options depth := by
  have hnone : node.merge.rules.allowed.bind List.head? = none := by
    rw [(declaresAll_merge h.declared).allowed, Option.bind_none]
  have hmerged : node.merge.merged? = none := merged?_merge h.order
  calc
    exampleAt options depth node = exampleAt options depth node.merge := (exampleAt_merge ..).symm
    _ = node.merge.exampleOfKind options depth := exampleAt_of_merged?_eq_none hnone hmerged

/-! ## Items of examples -/

/-- An example is an array only if a node that is combined says what its items are. -/
theorem Searchable.exists_items {options : ExampleOptions} {depth : Nat} {node : Node} (h : node.Searchable)
    {values : List Json} (he : exampleAt options depth node = .array values) :
    ∃ below, node.CombinesTo below ∧ below.items ≠ none := by
  rw [h.exampleAt_eq] at he
  unfold exampleOfKind at he
  cases hk : node.merge.effectiveKind? with
  | none =>
    rw [hk] at he
    dsimp only at he
    cases hf : node.merge.firstAlternative? with
    | none =>
      rw [hf] at he
      cases he
    | some branch =>
      rw [hf] at he
      have := (Child.of_firstAlternative? hf).count_lt
      have := node.count_merge_le
      obtain ⟨below, hto, hbelow⟩ := (h.of_child_merge (.of_firstAlternative? hf)).exists_items he
      obtain ⟨origin, horigin, hfirst⟩ := exists_of_search firstAlternative?_merge .of_mem_allOfBranches hf
      rw [firstAlternative?_eq_head?] at hfirst
      have hb : branch ∈ origin.combined := mem_combined_of_mem_alternatives (List.mem_of_head? hfirst)
      exact ⟨below, (HoldsWith.combinesTo horigin).trans (.head hb hto), hbelow⟩
  | some kind =>
    rw [hk] at he
    cases kind with
    | array =>
      obtain ⟨child, hi⟩ := Option.ne_none_iff_exists'.1 ((declaresAll_merge h.declared).items_of_effectiveKind? hk)
      obtain ⟨below, hto, hbelow⟩ := exists_of_search items_merge .of_mem_allOfBranches hi
      exact ⟨below, HoldsWith.combinesTo hto, by rw [hbelow]; exact nofun⟩
    | other tag => exact absurd hk (node.merge.effectiveKind?_ne_other tag)
    | number =>
      dsimp only at he
      cases hx : node.merge.rules.exampleNumber? <;> rw [hx] at he <;> cases he
    | _ => cases he
termination_by node.count

/-! ## Covered paths -/

/-- The path leads to a schema, or into an array at a place whose schema does not say itself what the items are; only a
schema that it combines does. -/
def Covers (node : Node) (path : FieldPath) : Prop :=
  (∃ found, node.resolve path = .resolved found) ∨
    ∃ front i rest found, path = front ++ .index i :: rest ∧ node.resolve front = .resolved found ∧
      found.items = none ∧ ∃ below, found.CombinesTo below ∧ below.items ≠ none

section Covers

variable {node child : Node} {segment : Segment} {rest : FieldPath}

theorem covers_nil (node : Node) : node.Covers [] := .inl ⟨node, resolve_nil node⟩

theorem Covers.cons (hs : node.step segment = .ok child) (h : child.Covers rest) : node.Covers (segment :: rest) := by
  rcases h with ⟨found, hfound⟩ | ⟨front, i, rest, found, rfl, hfound, hi, hbelow⟩
  · exact .inl ⟨found, resolve_cons_iff.2 ⟨child, hs, hfound⟩⟩
  · exact .inr ⟨segment :: front, i, rest, found, rfl, resolve_cons_iff.2 ⟨child, hs, hfound⟩, hi, hbelow⟩

theorem covers_name_cons_iff {name : String} :
    node.Covers (.name name :: rest) ↔ ∃ child, node.step (.name name) = .ok child ∧ child.Covers rest := by
  refine ⟨?_, fun ⟨child, hs, h⟩ => h.cons hs⟩
  rintro (⟨found, hfound⟩ | ⟨front, i, rest', found, heq, hfound, hi, hbelow⟩)
  · obtain ⟨child, hs, hfound⟩ := resolve_cons_iff.1 hfound
    exact ⟨child, hs, .inl ⟨found, hfound⟩⟩
  · cases front with
    | nil => cases heq
    | cons first front =>
      obtain ⟨rfl, rfl⟩ := List.cons.inj heq
      obtain ⟨child, hs, hfound⟩ := resolve_cons_iff.1 hfound
      exact ⟨child, hs, .inr ⟨front, i, rest', found, rfl, hfound, hi, hbelow⟩⟩

end Covers

section Parts

variable {options : ExampleOptions} {depth : Nat} {node : Node} {path : FieldPath} {part : Json}

theorem Searchable.covers_object (h : node.Searchable)
    (below : ∀ child, node.merge.Child child → ∀ {path part},
      (exampleAt options (depth + 1) child).atPath? path = some part → child.Covers path)
    (hp : (Json.object (if options.maxDepth ≤ depth then [] else node.merge.exampleMembers options (depth + 1))).atPath?
      path = some part) : node.Covers path := by
  cases path with
  | nil => exact covers_nil node
  | cons segment rest =>
    obtain ⟨value, hv, hp⟩ := Json.atPath?_cons_eq_some.1 hp
    cases segment with
    | index i => cases hv
    | name name =>
      have hl : (if options.maxDepth ≤ depth then [] else node.merge.exampleMembers options (depth + 1)).lookup name =
          some value := hv
      split at hl
      · cases hl
      · have hd := declaresAll_merge h.declared
        have hnames := nodup_properties_merge h.names
        rcases mem_exampleMembers hnames (Names.mem_of_lookup hl) with ⟨child, hc, rfl⟩ | ⟨hr, hn⟩ | ⟨child, ha, -⟩
        · have hfound : findProperty? name node = some child :=
            findProperty?_of_merge h.order h.agreeing (Names.lookup_of_mem hnames hc)
          exact (below child (.property hc) hp).cons (step_name_eq_ok_iff.2 hfound)
        · exact absurd hn (hd.required name hr)
        · exact absurd ha (hd.additional child)

theorem covers_array
    (below : ∀ child, node.merge.Child child → ∀ {path part},
      (exampleAt options (depth + 1) child).atPath? path = some part → child.Covers path)
    (hitems : ∀ {i rest}, path = .index i :: rest → ∃ below, node.CombinesTo below ∧ below.items ≠ none)
    (hp : (Json.array (if options.maxDepth ≤ depth then [] else node.merge.exampleItems options (depth + 1))).atPath?
      path = some part) : node.Covers path := by
  cases path with
  | nil => exact covers_nil node
  | cons segment rest =>
    obtain ⟨value, hv, hp⟩ := Json.atPath?_cons_eq_some.1 hp
    cases segment with
    | name name => cases hv
    | index i =>
      cases hi : node.items with
      | none => exact .inr ⟨[], i, rest, node, rfl, resolve_nil node, hi, hitems rfl⟩
      | some child =>
        have hmerge : node.merge.items = some child := by rw [items_merge, hi, Option.some_or]
        have hl : (if options.maxDepth ≤ depth then [] else node.merge.exampleItems options (depth + 1))[i]? =
            some value := hv
        split at hl
        · cases hl
        · have hm := List.mem_of_getElem? hl
          rw [exampleItems, hmerge] at hm
          obtain rfl := List.mem_singleton.1 hm
          refine (below child (.items hmerge) hp).cons ?_
          rw [step, hi]

theorem Searchable.covers_of_firstAlternative? (h : node.Searchable) (hk : node.merge.effectiveKind? = none)
    {branch : Node} (hf : node.merge.firstAlternative? = some branch) (hb : branch.Covers path)
    (hitems : ∀ {i rest}, path = .index i :: rest → ∃ below, node.CombinesTo below ∧ below.items ≠ none) :
    node.Covers path := by
  obtain ⟨hproperties, hi⟩ := parts_of_effectiveKind?_eq_none hk
  cases path with
  | nil => exact covers_nil node
  | cons segment rest =>
    cases segment with
    | name name =>
      obtain ⟨child, hs, hchild⟩ := covers_name_cons_iff.1 hb
      have hnone : node.merge.property? name = none := by rw [property?, hproperties, List.lookup_nil]
      have hfound := findProperty?_of_firstAlternative? h.order h.agreeing hnone hf (step_name_eq_ok_iff.1 hs)
      exact hchild.cons (step_name_eq_ok_iff.2 hfound)
    | index i =>
      rw [items_merge, Option.or_eq_none_iff] at hi
      exact .inr ⟨[], i, rest, node, rfl, resolve_nil node, hi.1, hitems rfl⟩

end Parts

/-- **A node covers each path in its example**, wherever it stands. -/
theorem covers_of_atPath? {options : ExampleOptions} {depth : Nat} {node : Node} (h : node.Searchable)
    {path : FieldPath} {part : Json} (hp : (exampleAt options depth node).atPath? path = some part) :
    node.Covers path := by
  have hitems {i : Nat} {rest : FieldPath} (heq : path = .index i :: rest) :
      ∃ below, node.CombinesTo below ∧ below.items ≠ none := by
    subst heq
    obtain ⟨value, hv, -⟩ := Json.atPath?_cons_eq_some.1 hp
    cases he : exampleAt options depth node with
    | array values => exact h.exists_items he
    | _ =>
      rw [he] at hv
      cases hv
  have below (child : Node) (hc : node.merge.Child child) {depth : Nat} {path : FieldPath} {part : Json}
      (hp : (exampleAt options depth child).atPath? path = some part) : child.Covers path := by
    have := hc.count_lt
    have := node.count_merge_le
    exact covers_of_atPath? (h.of_child_merge hc) hp
  rw [h.exampleAt_eq] at hp
  unfold exampleOfKind at hp
  cases path with
  | nil => exact covers_nil node
  | cons segment rest =>
    cases hk : node.merge.effectiveKind? with
    | none =>
      rw [hk] at hp
      dsimp only at hp
      cases hf : node.merge.firstAlternative? with
      | none =>
        rw [hf] at hp
        obtain ⟨_, ⟨⟩, -⟩ := Json.atPath?_cons_eq_some.1 hp
      | some branch =>
        rw [hf] at hp
        exact h.covers_of_firstAlternative? hk hf (below branch (.of_firstAlternative? hf) hp) hitems
    | some kind =>
      rw [hk] at hp
      cases kind with
      | object => exact h.covers_object (fun child hc _ _ => below child hc) hp
      | array => exact covers_array (fun child hc _ _ => below child hc) hitems hp
      | other tag => exact absurd hk (node.merge.effectiveKind?_ne_other tag)
      | number =>
        obtain ⟨_, hv, -⟩ := Json.atPath?_cons_eq_some.1 hp
        cases hx : node.merge.rules.exampleNumber? <;> rw [hx] at hv <;> cases hv
      | _ => obtain ⟨_, ⟨⟩, -⟩ := Json.atPath?_cons_eq_some.1 hp
termination_by node.count

/-! ## Where a lookup leads -/

/-- **The fields of an example are fields of its schema.** Let the schema declare all that an example takes from it,
and let the branches of each `allOf` agree with what a search meets behind them. Then each path in an example leads to a
schema; or it goes into an array at a place whose schema does not say itself what the items are, and there a lookup
stops, if it finds no property that is called like the position. -/
theorem resolve_of_atPath?_toExample {schema : Json} {root : Node} (hc : compile schema = .ok root)
    (hd : schema.hasDistinctNames = true) (hdeclared : root.Everywhere DeclaresAll)
    (hagreeing : root.Everywhere Agreeing) (options : ExampleOptions) {path : FieldPath} {part : Json}
    (hp : (root.toExample options).atPath? path = some part) :
    (∃ found, root.resolve path = .resolved found) ∨
      ∃ front i rest found, path = front ++ .index i :: rest ∧ root.resolve front = .resolved found ∧
        found.items = none ∧ (∃ below, found.CombinesTo below ∧ below.items ≠ none) ∧
        (findProperty? (toString i) found = none →
          root.resolve path = .unresolved (FieldPath.toDot (front ++ [.index i])) .notAnArray) := by
  have h : root.Searchable := ⟨everywhere_namesHere hc hd, everywhere_inOrder hc, hdeclared, hagreeing⟩
  refine (covers_of_atPath? h hp).imp_right ?_
  rintro ⟨front, i, rest, found, rfl, hfound, hi, hbelow⟩
  refine ⟨front, i, rest, found, rfl, hfound, hi, hbelow, fun hnone => resolve_of_step_eq_error rest hfound ?_⟩
  rw [step, hi]
  dsimp only
  rw [hnone]

def plainText : Node := schema { kind := some .string } [] none .open []

/-- Two branches declare a list, the first one in an alternative, and both alike. -/
def agreedSchema : Json :=
  let list : Json := .object [("type", .string "array"), ("items", .object [("type", .string "string")])]
  .object [
    ("allOf", .array [
      .object [("anyOf", .array [.object [("properties", .object [("list", list)])]])],
      .object [("required", .array [.string "list"]), ("properties", .object [("list", list)])]])]

def agreedList : Node := schema { kind := some .array } [] (some plainText) .open []

def agreedOption : Node := schema {} [("list", agreedList)] none .open []

def agreedFirst : Node := schema {} [] none .open [(.anyOf, [agreedOption])]

def agreedSecond : Node := schema { required := ["list"] } [("list", agreedList)] none .open []

def agreed : Node := schema {} [] none .open [(.allOf, [agreedFirst, agreedSecond])]

theorem everywhere_agreed {P : Node → Prop} (h : ∀ node ∈ [agreed, agreedFirst, agreedSecond, agreedOption, agreedList,
    plainText], P node) : agreed.Everywhere P := by
  have htext : plainText.Everywhere P := everywhere_schema (h plainText (by simp)) nofun nofun nofun nofun
  have hlist : agreedList.Everywhere P := by
    refine everywhere_schema (h agreedList (by simp)) nofun (fun child hi => ?_) nofun nofun
    obtain rfl := Option.some.inj hi
    exact htext
  have hoption : agreedOption.Everywhere P :=
    everywhere_schema (h agreedOption (by simp)) (List.forall_mem_singleton.2 hlist) nofun nofun nofun
  have hfirst : agreedFirst.Everywhere P :=
    everywhere_schema (h agreedFirst (by simp)) nofun nofun nofun
      (List.forall_mem_singleton.2 (List.forall_mem_singleton.2 hoption))
  have hsecond : agreedSecond.Everywhere P :=
    everywhere_schema (h agreedSecond (by simp)) (List.forall_mem_singleton.2 hlist) nofun nofun nofun
  exact everywhere_schema (h agreed (by simp)) nofun nofun nofun
    (List.forall_mem_singleton.2 (List.forall_mem_cons.2 ⟨hfirst, List.forall_mem_singleton.2 hsecond⟩))

theorem eq_of_declares_agreed {node child : Node} (hp : node.properties = [("list", agreedList)])
    (hc : node.combined = []) {name : String} (h : node.Declares name child) : child = agreedList := by
  rcases declares_iff.1 h with hl | ⟨branch, hb, -⟩
  · rw [property?, hp, Names.lookup_single] at hl
    split at hl
    · exact (Option.some.inj hl).symm
    · cases hl
  · rw [hc] at hb
    cases hb

theorem agreesWith_agreed : agreedFirst.AgreesWith agreedSecond := by
  intro name child other _ hfirst hsecond
  have hchild : child = agreedList := by
    rcases declares_iff.1 hfirst with hl | ⟨branch, hb, hoption⟩
    · cases hl
    · obtain rfl := List.mem_singleton.1 hb
      exact eq_of_declares_agreed rfl rfl hoption
  exact (eq_of_declares_agreed rfl rfl hsecond).trans hchild.symm

theorem resolve_of_atPath?_toExample_agreed :
    compile agreedSchema = .ok agreed ∧ agreedSchema.hasDistinctNames = true ∧ agreed.Everywhere DeclaresAll ∧
      agreed.Everywhere Agreeing ∧
      (agreed.toExample {}).atPath? [.name "list", .index 0] = some (.string "string") ∧
      ∃ found, agreed.resolve [.name "list", .index 0] = .resolved found := by
  have hc : compile agreedSchema = .ok agreed := by rfl
  have hd : agreedSchema.hasDistinctNames = true := by decide
  have hdeclared : agreed.Everywhere DeclaresAll := by
    have hsecond : agreedSecond.DeclaresAll := by
      refine ⟨rfl, nofun, fun name hn => ?_, nofun⟩
      obtain rfl := List.mem_singleton.1 hn
      exact nofun
    refine everywhere_agreed fun node hm => ?_
    simp only [List.mem_cons, List.not_mem_nil, or_false] at hm
    rcases hm with rfl | rfl | rfl | rfl | rfl | rfl
    case inr.inr.inl => exact hsecond
    all_goals exact ⟨rfl, nofun, nofun, nofun⟩
  have hagreeing : agreed.Everywhere Agreeing := by
    refine everywhere_agreed fun node hm => ?_
    simp only [List.mem_cons, List.not_mem_nil, or_false] at hm
    rcases hm with rfl | rfl | rfl | rfl | rfl | rfl
    case inl => exact ⟨List.pairwise_pair.2 agreesWith_agreed, fun _ _ => nofun⟩
    all_goals exact agreeing_of_allOfBranches_eq_nil rfl
  have hexample : agreed.toExample {} = .object [("list", .array [.string "string"])] := by
    rw [toExample_eq_iterate]
    rfl
  have hp : (agreed.toExample {}).atPath? [.name "list", .index 0] = some (.string "string") := by
    rw [hexample]
    rfl
  refine ⟨hc, hd, hdeclared, hagreeing, hp, ?_⟩
  -- The list says itself what its items are.
  rcases resolve_of_atPath?_toExample hc hd hdeclared hagreeing {} hp with h | ⟨front, i, rest, found, heq, hf, hi, -⟩
  · exact h
  · cases front with
    | nil => cases heq
    | cons first front =>
      obtain ⟨rfl, heq⟩ := List.cons.inj heq
      cases front with
      | nil =>
        obtain rfl : agreedList = found := Lookup.resolved.inj hf
        cases hi
      | cons second front =>
        have hlength := congrArg List.length (List.cons.inj heq).2
        simp at hlength

/-- Not only does an example take from the node just what it declares; the node is no reference and combines nothing by
`not` either. -/
structure DeclaresPlainly (node : Node) : Prop extends node.DeclaresAll where
  known : ∀ target, node ≠ reference target
  positive : ∀ c ∈ node.combinations, c.1 ≠ .not

theorem everywhere_object (name : String) {child : Node} (h : child.Everywhere DeclaresPlainly) :
    (schema {} [(name, child)] none .open []).Everywhere DeclaresPlainly :=
  everywhere_schema ⟨⟨rfl, nofun, nofun, nofun⟩, nofun, nofun⟩ (List.forall_mem_singleton.2 h) nofun nofun nofun

theorem everywhere_list {child : Node} (h : child.Everywhere DeclaresPlainly) :
    (schema { kind := some .array } [] (some child) .open []).Everywhere DeclaresPlainly := by
  refine everywhere_schema ⟨⟨rfl, nofun, nofun, nofun⟩, nofun, nofun⟩ nofun (fun item hi => ?_) nofun nofun
  obtain rfl := Option.some.inj hi
  exact h

theorem everywhere_combined (combinator : Combinator) (hc : combinator ≠ .not) {branches : List Node}
    (h : ∀ branch ∈ branches, branch.Everywhere DeclaresPlainly) :
    (schema {} [] none .open [(combinator, branches)]).Everywhere DeclaresPlainly :=
  everywhere_schema ⟨⟨rfl, nofun, nofun, nofun⟩, nofun, List.forall_mem_singleton.2 hc⟩ nofun nofun nofun
    (List.forall_mem_singleton.2 h)

/-- Two branches declare a name; the first one in an alternative, and as a text. -/
def shadowedSchema : Json :=
  .object [
    ("allOf", .array [
      .object [("anyOf", .array [.object [("properties", .object [("a", .object [("type", .string "string")])])]])],
      .object [("properties", .object [
        ("a", .object [("properties", .object [("b", .object [("type", .string "string")])])])])]])]

def shadowed : Node :=
  schema {} [] none .open
    [(.allOf, [
      schema {} [] none .open [(.anyOf, [schema {} [("a", plainText)] none .open []])],
      schema {} [("a", schema {} [("b", plainText)] none .open [])] none .open []])]

/-- A branch says that a value is a list of texts. -/
def joinedListSchema : Json :=
  .object [
    ("allOf", .array [.object [("type", .string "array"), ("items", .object [("type", .string "string")])]])]

def joinedList : Node :=
  schema {} [] none .open [(.allOf, [schema { kind := some .array } [] (some plainText) .open []])]

/-- A lookup takes the first declaration that it finds, and asks for items only the node itself. So a path in an
example may lead nowhere, although the schema has neither references nor `not`, and declares all that the example
takes from it. -/
theorem not_resolved_of_atPath? :
    (compile shadowedSchema = .ok shadowed ∧ shadowed.Everywhere DeclaresPlainly ∧
      (shadowed.toExample {}).atPath? [.name "a", .name "b"] = some (.string "string") ∧
      shadowed.resolve [.name "a", .name "b"] = .unresolved "a.b" .unknownProperty) ∧
    (compile joinedListSchema = .ok joinedList ∧ joinedList.Everywhere DeclaresPlainly ∧
      (joinedList.toExample {}).atPath? [.index 0] = some (.string "string") ∧
      joinedList.resolve [.index 0] = .unresolved "0" .notAnArray) := by
  have htext : plainText.Everywhere DeclaresPlainly :=
    everywhere_schema ⟨⟨rfl, nofun, nofun, nofun⟩, nofun, nofun⟩ nofun nofun nofun nofun
  have hshadowed : shadowed.Everywhere DeclaresPlainly := by
    have hfirst := everywhere_combined .anyOf nofun (List.forall_mem_singleton.2 (everywhere_object "a" htext))
    have hsecond := everywhere_object "a" (everywhere_object "b" htext)
    exact everywhere_combined .allOf nofun (List.forall_mem_cons.2 ⟨hfirst, List.forall_mem_singleton.2 hsecond⟩)
  have hjoined : joinedList.Everywhere DeclaresPlainly :=
    everywhere_combined .allOf nofun (List.forall_mem_singleton.2 (everywhere_list htext))
  have hnested : shadowed.toExample {} = .object [("a", .object [("b", .string "string")])] := by
    rw [toExample_eq_iterate]
    rfl
  have hlist : joinedList.toExample {} = .array [.string "string"] := by
    rw [toExample_eq_iterate]
    rfl
  refine ⟨⟨by rfl, hshadowed, ?_, by rfl⟩, ⟨by rfl, hjoined, ?_, by rfl⟩⟩
  · rw [hnested]
    rfl
  · rw [hlist]
    rfl

end Node

end Schemata
