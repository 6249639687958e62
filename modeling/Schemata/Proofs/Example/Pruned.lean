import Schemata.Proofs.Example.Absorb
import Schemata.Proofs.Example.Nesting
import Schemata.Proofs.Example.Required

/-!
# Examples with required members only

* `Node.Pruned` : a value is another one without the members that are not required, at each level by the node that the
  object there is an example of;
* `Node.keys_ownMembers` : the names of an object before the further one, in order;
* `Node.exists_further` : an example with all properties has at most one member more, which is not required;
* `Node.pruned_object`, `Node.pruned_array` : the two examples of an object or an array, if those of its parts are as
  they should be;
* `Node.toExample_pruned` : so an example with required members only is the other one without those that are not
  required, unless a required name that is not declared is the one that further members get.
-/

namespace Schemata

/-- Names that are all kept may be joined before or after leaving out the others. -/
theorem Rules.joinNames_filter {keep : String → Bool} {others : List String} (h : ∀ name ∈ others, keep name = true)
    (names : List String) : joinNames (names.filter keep) others = (joinNames names others).filter keep := by
  induction others generalizing names with
  | nil => rfl
  | cons other rest ih =>
    obtain ⟨hother, hrest⟩ := List.forall_mem_cons.1 h
    have hone : addUnless List.contains (names.filter keep) other =
        (addUnless List.contains names other).filter keep := by
      have hcontains : (names.filter keep).contains other = names.contains other := by
        rw [Bool.eq_iff_iff, List.contains_iff_mem, List.contains_iff_mem, List.mem_filter]
        exact and_iff_left hother
      rw [addUnless, addUnless, hcontains]
      split
      · rfl
      · rw [List.filter_append, List.filter_singleton, hother]
        rfl
    calc joinNames (names.filter keep) (other :: rest)
      _ = joinNames (addUnless List.contains (names.filter keep) other) rest := rfl
      _ = joinNames ((addUnless List.contains names other).filter keep) rest := by rw [hone]
      _ = (joinNames names (other :: rest)).filter keep := ih hrest _

namespace Node

/-- The second value is the first one without the members that are not required. A first allowed value and a value
without parts are left as they are, an array keeps its items, and of an object those members are left that the node
requires which the object is an example of. -/
inductive Pruned : Node → Json → Json → Prop
  | allowed {node value} (first : node.rules.allowed.bind List.head? = some value) : Pruned node value value
  | scalar {node value} (noParts : value.partCount? = none) : Pruned node value value
  | merged {node merged full brief} (free : node.rules.allowed.bind List.head? = none)
      (h : node.merged? = some merged) (of : Pruned merged full brief) : Pruned node full brief
  | alternative {node branch full brief} (byKind : node.ByKind) (kind : node.effectiveKind? = none)
      (h : node.firstAlternative? = some branch) (of : Pruned branch full brief) : Pruned node full brief
  | array {node} {full brief : List Json} (byKind : node.ByKind) (kind : node.effectiveKind? = some .array)
      (length : brief.length = full.length)
      (items : ∀ child (i : Nat) value value', node.items = some child → full[i]? = some value →
        brief[i]? = some value' → Pruned child value value')
      (bare : node.items = none → brief = full) : Pruned node (.array full) (.array brief)
  | object {node} {full brief : List (String × Json)} (byKind : node.ByKind) (kind : node.effectiveKind? = some .object)
      (keys : brief.map Prod.fst = (full.map Prod.fst).filter node.isRequired)
      (declared : ∀ name child value value', node.property? name = some child → full.lookup name = some value →
        brief.lookup name = some value' → Pruned child value value')
      (undeclared : ∀ name value, node.property? name = none → brief.lookup name = some value →
        full.lookup name = some value) : Pruned node (.object full) (.object brief)

/-- An object that is to have further members requires, without declaring it, the name that they get in an example. -/
structure ClaimsKey (node : Node) : Prop where
  kind : node.effectiveKind? = some .object
  further : ∃ child, node.additional = .constrained child
  required : additionalName ∈ node.rules.required
  undeclared : node.property? additionalName = none

/-! ## Members -/

section Members

variable {options : ExampleOptions} {depth maxDepth : Nat} {node : Node}

def ownMembers (options : ExampleOptions) (depth : Nat) (node : Node) : List (String × Json) :=
  withRequired node.rules.required (Json.membersOf (node.declaredExamples options depth))

theorem exampleMembers_of_requiredOnly :
    node.exampleMembers ⟨true, maxDepth⟩ depth = node.ownMembers ⟨true, maxDepth⟩ depth := by
  unfold exampleMembers
  dsimp only
  split <;> rfl

theorem keys_withRequired (required : List String) (members : List (String × Json)) :
    (withRequired required members).map Prod.fst = Rules.joinNames (members.map Prod.fst) required := by
  induction required generalizing members with
  | nil => rfl
  | cons name rest ih =>
    have hone : (if (members.lookup name).isSome then members else members ++ [(name, placeholder)]).map Prod.fst =
        addUnless List.contains (members.map Prod.fst) name := by
      have hcontains : (members.map Prod.fst).contains name = (members.lookup name).isSome := by
        rw [Bool.eq_iff_iff, List.contains_iff_mem, Option.isSome_iff_ne_none, ne_eq, Names.lookup_eq_none_iff, not_not]
      rw [addUnless, hcontains]
      split
      · rfl
      · rw [List.map_append, List.map_singleton]
    calc (withRequired (name :: rest) members).map Prod.fst
      _ = _ := ih _
      _ = Rules.joinNames (members.map Prod.fst) (name :: rest) := by rw [hone]; rfl

theorem keys_declaredExamples : (node.declaredExamples options depth).map Prod.fst =
    (node.properties.map Prod.fst).filter fun name => !options.requiredOnly || node.isRequired name := by
  unfold declaredExamples
  induction node.properties with
  | nil => rfl
  | cons p rest ih =>
    rw [List.filterMap_cons, List.map_cons, List.filter_cons, ← ih]
    cases options.requiredOnly <;> cases node.isRequired p.1 <;> rfl

theorem keys_ownMembers (hd : (node.properties.map Prod.fst).Nodup) :
    (node.ownMembers options depth).map Prod.fst =
      Rules.joinNames ((node.properties.map Prod.fst).filter fun name => !options.requiredOnly || node.isRequired name)
        node.rules.required := by
  rw [ownMembers, keys_withRequired, Json.membersOf_of_nodup (nodup_declaredExamples hd), keys_declaredExamples]

theorem keys_ownMembers_of_requiredOnly (hd : (node.properties.map Prod.fst).Nodup) :
    (node.ownMembers ⟨true, maxDepth⟩ depth).map Prod.fst =
      ((node.ownMembers ⟨false, maxDepth⟩ depth).map Prod.fst).filter node.isRequired := by
  have hkeep : ∀ name ∈ node.rules.required, node.isRequired name = true := fun name hn => List.contains_iff_mem.2 hn
  rw [keys_ownMembers hd, keys_ownMembers hd, ← Rules.joinNames_filter hkeep]
  simp

/-- An example with all properties has at most one member more, which is neither required nor declared. -/
theorem exists_further (maxDepth depth : Nat) (hd : (node.properties.map Prod.fst).Nodup)
    (hk : node.effectiveKind? = some .object) (hclaim : ¬ node.ClaimsKey) :
    ∃ further, node.exampleMembers ⟨false, maxDepth⟩ depth = node.ownMembers ⟨false, maxDepth⟩ depth ++ further ∧
      ∀ m ∈ further, node.isRequired m.1 = false := by
  unfold exampleMembers
  dsimp only
  split
  · next child ha =>
    split
    · exact ⟨[], (List.append_nil _).symm, List.forall_mem_nil _⟩
    · next hs =>
      rw [Bool.false_or, Bool.not_eq_true, Option.isSome_eq_false_iff, Option.isNone_iff_eq_none] at hs
      have hrequired : additionalName ∉ node.rules.required := fun hr => hclaim ⟨hk, ⟨child, ha⟩, hr, hs⟩
      have hnew : additionalName ∉ (node.ownMembers ⟨false, maxDepth⟩ depth).map Prod.fst := by
        rw [keys_ownMembers hd, Rules.mem_joinNames, not_or]
        exact ⟨fun hm => Names.lookup_eq_none_iff.1 hs (List.mem_filter.1 hm).1, hrequired⟩
      refine ⟨_, Json.setMember_of_not_mem hnew, List.forall_mem_singleton.2 ?_⟩
      exact Bool.eq_false_iff.2 fun hm => hrequired (List.contains_iff_mem.1 hm)
  · exact ⟨[], (List.append_nil _).symm, List.forall_mem_nil _⟩
  · exact ⟨[], (List.append_nil _).symm, List.forall_mem_nil _⟩

theorem eq_exampleAt_of_property? (hd : (node.properties.map Prod.fst).Nodup) {name : String} {child : Node}
    (hp : node.property? name = some child) {value : Json}
    (hv : (node.exampleMembers options depth).lookup name = some value) : value = child.exampleAt options depth := by
  rcases mem_exampleMembers hd (Names.mem_of_lookup hv) with ⟨other, ho, hv⟩ | ⟨-, hn⟩ | ⟨_, -, hn, -⟩
  · obtain rfl := Option.some.inj (hp.symm.trans (Names.lookup_of_mem hd ho))
    exact hv
  · exact absurd (hp.symm.trans hn) nofun
  · exact absurd (hp.symm.trans hn) nofun

end Members

/-! ## One level -/

section Level

variable {depth maxDepth : Nat} {node : Node}

theorem pruned_object (hd : (node.properties.map Prod.fst).Nodup) (hb : node.ByKind)
    (hk : node.effectiveKind? = some .object) (hclaim : ¬ node.ClaimsKey)
    (below : ∀ p ∈ node.properties,
      Pruned p.2 (exampleAt ⟨false, maxDepth⟩ depth p.2) (exampleAt ⟨true, maxDepth⟩ depth p.2)) :
    Pruned node (.object (node.exampleMembers ⟨false, maxDepth⟩ depth))
      (.object (node.exampleMembers ⟨true, maxDepth⟩ depth)) := by
  obtain ⟨further, hfull, hfurther⟩ := exists_further maxDepth depth hd hk hclaim
  have hbrief : node.exampleMembers ⟨true, maxDepth⟩ depth = node.ownMembers ⟨true, maxDepth⟩ depth :=
    exampleMembers_of_requiredOnly
  refine .object hb hk ?_ (fun name child value value' hp hv hv' => ?_) fun name value hu hv => ?_
  · have hnone : (further.map Prod.fst).filter node.isRequired = [] := by
      refine List.filter_eq_nil_iff.2 fun name hn => ?_
      obtain ⟨m, hm, rfl⟩ := List.mem_map.1 hn
      exact Bool.eq_false_iff.1 (hfurther m hm)
    rw [hbrief, hfull, List.map_append, List.filter_append, hnone, List.append_nil]
    exact keys_ownMembers_of_requiredOnly hd
  · rw [eq_exampleAt_of_property? hd hp hv, eq_exampleAt_of_property? hd hp hv']
    exact below (name, child) (Names.mem_of_lookup hp)
  · -- Both have the placeholder there.
    rw [hbrief, ownMembers, lookup_withRequired_declaredExamples hu] at hv
    rw [hfull, List.lookup_append, ownMembers, lookup_withRequired_declaredExamples hu, hv, Option.some_or]

theorem pruned_array (hb : node.ByKind) (hk : node.effectiveKind? = some .array)
    (below : ∀ child, node.items = some child →
      Pruned child (exampleAt ⟨false, maxDepth⟩ depth child) (exampleAt ⟨true, maxDepth⟩ depth child)) :
    Pruned node (.array (node.exampleItems ⟨false, maxDepth⟩ depth))
      (.array (node.exampleItems ⟨true, maxDepth⟩ depth)) := by
  unfold exampleItems
  cases hi : node.items with
  | none => exact .array hb hk rfl (fun child _ _ _ hc => absurd (hi.symm.trans hc) nofun) fun _ => rfl
  | some child =>
    refine .array hb hk rfl (fun child' i value value' hc hv hv' => ?_) fun hn => absurd (hi.symm.trans hn) nofun
    obtain rfl := Option.some.inj (hi.symm.trans hc)
    rw [List.mem_singleton.1 (List.mem_of_getElem? hv), List.mem_singleton.1 (List.mem_of_getElem? hv')]
    exact below child hi

theorem pruned_exampleOfKind (hd : (node.properties.map Prod.fst).Nodup) (hb : node.ByKind) (hclaim : ¬ node.ClaimsKey)
    (below : ∀ next, Calls ⟨false, maxDepth⟩ (depth, node) next →
      Pruned next.2 (exampleAt ⟨false, maxDepth⟩ next.1 next.2) (exampleAt ⟨true, maxDepth⟩ next.1 next.2)) :
    Pruned node (node.exampleOfKind ⟨false, maxDepth⟩ depth) (node.exampleOfKind ⟨true, maxDepth⟩ depth) := by
  unfold exampleOfKind
  cases hk : node.effectiveKind? with
  | none =>
    dsimp only
    cases hf : node.firstAlternative? with
    | none => exact .scalar rfl
    | some branch => exact .alternative hb hk hf (below _ (.alternative hb hk hf))
  | some kind =>
    cases kind with
    | object =>
      dsimp only
      by_cases hroom : maxDepth ≤ depth
      · rw [if_pos hroom, if_pos hroom]
        exact .object hb hk rfl (fun _ _ _ _ _ hv => nomatch hv) fun _ _ _ hv => nomatch hv
      · rw [if_neg hroom, if_neg hroom]
        exact pruned_object hd hb hk hclaim fun p hp =>
          below _ (.property hb hk (Nat.lt_of_not_le hroom) hp fun honly => nomatch honly)
    | array =>
      dsimp only
      by_cases hroom : maxDepth ≤ depth
      · rw [if_pos hroom, if_pos hroom]
        exact .array hb hk rfl (fun _ _ _ _ _ hv => nomatch hv) fun _ => rfl
      · rw [if_neg hroom, if_neg hroom]
        exact pruned_array hb hk fun child hi => below _ (.items hb hk (Nat.lt_of_not_le hroom) hi)
    | number =>
      dsimp only
      cases node.rules.exampleNumber? <;> exact .scalar rfl
    | other tag => exact absurd hk (node.effectiveKind?_ne_other tag)
    | _ => exact .scalar rfl

end Level

/-! ## All levels -/

/-- **The example with required members is the other one without the rest**, at each depth. -/
theorem pruned_exampleAt {maxDepth depth : Nat} {node : Node} (hnames : node.Everywhere NamesHere)
    (hclaims : ∀ call, Relation.ReflTransGen (Calls ⟨false, maxDepth⟩) (depth, node) call → call.2.ByKind →
      ¬ call.2.ClaimsKey) :
    Pruned node (exampleAt ⟨false, maxDepth⟩ depth node) (exampleAt ⟨true, maxDepth⟩ depth node) := by
  induction depth, node using Calls.induction ⟨false, maxDepth⟩ with
  | step depth node ih =>
    have below : ∀ next, Calls ⟨false, maxDepth⟩ (depth, node) next →
        Pruned next.2 (exampleAt ⟨false, maxDepth⟩ next.1 next.2) (exampleAt ⟨true, maxDepth⟩ next.1 next.2) :=
      fun next hn => ih next hn (hn.everywhere (P := NamesHere) NamesHere.withoutAllOf NamesHere.absorb hnames)
        fun call hc => hclaims call (.head hn hc)
    cases hfree : node.rules.allowed.bind List.head? with
    | some value =>
      rw [exampleAt_of_head? hfree, exampleAt_of_head? hfree]
      exact .allowed hfree
    | none =>
      cases hm : node.merged? with
      | some merged =>
        rw [exampleAt_of_merged?_eq_some hfree hm, exampleAt_of_merged?_eq_some hfree hm]
        exact .merged hfree hm (below _ (.merged hfree hm))
      | none =>
        rw [exampleAt_of_merged?_eq_none hfree hm, exampleAt_of_merged?_eq_none hfree hm]
        exact pruned_exampleOfKind hnames.here.properties ⟨hfree, hm⟩ (hclaims _ .refl ⟨hfree, hm⟩) below

/-- The node does not require the name that further members get. -/
def LeavesKey (node : Node) : Prop := additionalName ∉ node.rules.required

theorem LeavesKey.withoutAllOf {node : Node} (h : node.LeavesKey) : node.withoutAllOf.LeavesKey := by
  cases node <;> exact h

theorem LeavesKey.absorb {target branch : Node} (ht : target.LeavesKey) (hb : branch.LeavesKey) :
    (target.absorb branch).LeavesKey := by
  cases target with
  | reference name => exact ht
  | schema =>
    cases branch with
    | reference name => exact ht
    | schema => exact fun hm => (Rules.mem_required_absorb_iff.1 hm).elim ht hb

theorem not_claimsKey_of_everywhere {options : ExampleOptions} {start call : Nat × Node}
    (h : start.2.Everywhere LeavesKey) (hcalls : Relation.ReflTransGen (Calls options) start call) :
    ¬ call.2.ClaimsKey := by
  have hcall : call.2.Everywhere LeavesKey := by
    induction hcalls with
    | refl => exact h
    | tail _ hn ih => exact hn.everywhere (P := LeavesKey) LeavesKey.withoutAllOf LeavesKey.absorb ih
  exact fun hclaim => hcall.here hclaim.required

/-- **The example with required members only is the full one, pruned.** At every level values without parts and allowed
values are the same, arrays have as many items, which are related again, and an object has those names of the other one
that its node requires, in the same order, with related values. It is only asked that no object that is to have further
members requires, without declaring it, the name that these get. -/
theorem toExample_pruned {schema : Json} {root : Node} (hc : compile schema = .ok root)
    (hd : schema.hasDistinctNames = true) (maxDepth : Nat)
    (hclaims : ∀ call, Relation.ReflTransGen (Calls ⟨false, maxDepth⟩) (0, root) call → call.2.ByKind →
      ¬ call.2.ClaimsKey) :
    Pruned root (root.toExample ⟨false, maxDepth⟩) (root.toExample ⟨true, maxDepth⟩) :=
  pruned_exampleAt (everywhere_namesHere hc hd) hclaims

/-- An order with lines, said in two branches. -/
def orderSchema : Json :=
  .object [
    ("allOf", .array [
      .object [
        ("required", .array [.string "lines", .string "id"]),
        ("properties", .object [
          ("id", .object [("enum", .array [.array [.null]])]),
          ("note", .object [("type", .string "string")])])],
      .object [
        ("properties", .object [
          ("lines", .object [
            ("items", .object [
              ("required", .array [.string "part", .string "gift"]),
              ("properties", .object [("gift", .object [("type", .string "boolean")]), ("text", .object [])]),
              ("additionalProperties", .object [("type", .string "null")])])])])]])]

def orderId : Node := schema { allowed := some [.array [.null]] } [] none .open []

def orderNote : Node := schema { kind := some .string } [] none .open []

def orderGift : Node := schema { kind := some .boolean } [] none .open []

def orderFurther : Node := schema { kind := some .null } [] none .open []

def orderLine : Node :=
  schema { required := ["part", "gift"] } [("gift", orderGift), ("text", any)] none (.constrained orderFurther) []

def orderLines : Node := schema {} [] (some orderLine) .open []

def order : Node :=
  schema {} [] none .open [(.allOf, [
    schema { required := ["lines", "id"] } [("id", orderId), ("note", orderNote)] none .open [],
    schema {} [("lines", orderLines)] none .open []])]

theorem everywhere_leavesKey_order : order.Everywhere LeavesKey := by
  have hleaf : ∀ {rules : Rules}, rules.required = [] → (schema rules [] none .open []).Everywhere LeavesKey := by
    intro rules hr
    refine everywhere_schema (fun hm => ?_) nofun nofun nofun nofun
    have hnil : additionalName ∈ ([] : List String) := hr ▸ hm
    cases hnil
  have hline : orderLine.Everywhere LeavesKey := by
    refine everywhere_schema (by decide : additionalName ∉ ["part", "gift"])
      (List.forall_mem_cons.2 ⟨hleaf rfl, List.forall_mem_singleton.2 (hleaf rfl)⟩) nofun (fun child ha => ?_) nofun
    obtain rfl := Additional.constrained.inj ha
    exact hleaf rfl
  have hlines : orderLines.Everywhere LeavesKey := by
    refine everywhere_schema List.not_mem_nil nofun (fun child hi => ?_) nofun nofun
    obtain rfl := Option.some.inj hi
    exact hline
  refine everywhere_schema List.not_mem_nil nofun nofun nofun (List.forall_mem_singleton.2 ?_)
  refine List.forall_mem_cons.2 ⟨?_, List.forall_mem_singleton.2 ?_⟩
  · exact everywhere_schema (by decide : additionalName ∉ ["lines", "id"])
      (List.forall_mem_cons.2 ⟨hleaf rfl, List.forall_mem_singleton.2 (hleaf rfl)⟩) nofun nofun nofun
  · exact everywhere_schema List.not_mem_nil (List.forall_mem_singleton.2 hlines) nofun nofun nofun

/-- The note, the text of a line and its further member are left out. -/
theorem toExample_pruned_order :
    compile orderSchema = .ok order ∧ orderSchema.hasDistinctNames = true ∧
      (∀ call, Relation.ReflTransGen (Calls ⟨false, 8⟩) (0, order) call → call.2.ByKind → ¬ call.2.ClaimsKey) ∧
      order.toExample ⟨false, 8⟩ = .object [
        ("id", .array [.null]), ("note", .string "string"),
        ("lines", .array [
          .object [("gift", .bool true), ("text", .null), ("part", .string "example"), ("key", .null)]])] ∧
      order.toExample ⟨true, 8⟩ = .object [
        ("id", .array [.null]), ("lines", .array [.object [("gift", .bool true), ("part", .string "example")]])] ∧
      Pruned order (order.toExample ⟨false, 8⟩) (order.toExample ⟨true, 8⟩) := by
  have hc : compile orderSchema = .ok order := by rfl
  have hd : orderSchema.hasDistinctNames = true := by decide
  have hclaims : ∀ call, Relation.ReflTransGen (Calls ⟨false, 8⟩) (0, order) call → call.2.ByKind →
      ¬ call.2.ClaimsKey := fun _ hcalls _ => not_claimsKey_of_everywhere everywhere_leavesKey_order hcalls
  refine ⟨hc, hd, hclaims, ?_, ?_, toExample_pruned hc hd 8 hclaims⟩
  · rw [toExample_eq_iterate]
    rfl
  · rw [toExample_eq_iterate]
    rfl

end Node

end Schemata
