import Schemata.Proofs.Example.Calls

/-!
# How deep an example goes

* `Json.LiesAt` : a value lies inside another one at a depth; `Json.Within` : all arrays and objects in a value are
  within a limit, and those with parts are above it;
* `Json.within_object`, `Json.within_array` : so they are in a value that has room for its parts;
* `Node.mem_exampleMembers_calls`, `Node.mem_exampleItems_calls` : each part of an example is an example that is called
  for one level further down, or the placeholder;
* `Node.within_exampleAt` : so the depth of a call bounds the depth of what it gives;
* `Node.toExample_within` : no array or object in an example is deeper than the greatest depth, whatever is merged and
  whichever alternatives are taken on the way.
-/

namespace Schemata

namespace Json

/-! ## Depths in a value -/

/-- A part lies inside a value at a depth, the value itself at depth zero. -/
inductive LiesAt : Json → Nat → Json → Prop
  | here {value} : LiesAt value 0 value
  | member {members m depth part} (h : m ∈ members) (below : LiesAt m.2 depth part) :
      LiesAt (.object members) (depth + 1) part
  | item {items value depth part} (h : value ∈ items) (below : LiesAt value depth part) :
      LiesAt (.array items) (depth + 1) part

def partCount? : Json → Option Nat
  | array items => some items.length
  | object members => some members.length
  | null | bool _ | number _ | string _ => none

/-- In a value that stands at a depth, each array and object is within a limit, and above it unless it is empty. -/
def Within (limit depth : Nat) (value : Json) : Prop :=
  ∀ below part, value.LiesAt below part → ∀ count, part.partCount? = some count →
    depth + below ≤ limit ∧ (count ≠ 0 → depth + below < limit)

variable {limit depth : Nat}

theorem within_of_partCount?_eq_none {value : Json} (h : value.partCount? = none) : value.Within limit depth := by
  intro below part hp count hc
  cases hp with
  | here => exact absurd (h.symm.trans hc) nofun
  | member _ _ => cases h
  | item _ _ => cases h

theorem within_object {members : List (String × Json)} (hroom : depth ≤ limit) (hparts : members ≠ [] → depth < limit)
    (h : ∀ m ∈ members, m.2.Within limit (depth + 1)) : (object members).Within limit depth := by
  intro below part hp count hc
  cases hp with
  | here =>
    obtain rfl := Option.some.inj hc
    exact ⟨hroom, fun hne => hparts (List.length_pos_iff.1 (Nat.pos_of_ne_zero hne))⟩
  | member hm hbelow =>
    rw [Nat.add_comm _ 1, ← Nat.add_assoc]
    exact h _ hm _ part hbelow count hc

theorem within_array {items : List Json} (hroom : depth ≤ limit) (hparts : items ≠ [] → depth < limit)
    (h : ∀ value ∈ items, value.Within limit (depth + 1)) : (array items).Within limit depth := by
  intro below part hp count hc
  cases hp with
  | here =>
    obtain rfl := Option.some.inj hc
    exact ⟨hroom, fun hne => hparts (List.length_pos_iff.1 (Nat.pos_of_ne_zero hne))⟩
  | item hv hbelow =>
    rw [Nat.add_comm _ 1, ← Nat.add_assoc]
    exact h _ hv _ part hbelow count hc

end Json

namespace Node

/-! ## Nodes without allowed values -/

def ListsNone (node : Node) : Prop := node.rules.allowed.bind List.head? = none

theorem ListsNone.withoutAllOf {node : Node} (h : node.ListsNone) : node.withoutAllOf.ListsNone := by
  cases node <;> exact h

theorem ListsNone.absorb {target branch : Node} (ht : target.ListsNone) (hb : branch.ListsNone) :
    (target.absorb branch).ListsNone := by
  cases target with
  | reference name => exact ht
  | schema rules properties items additional combinations =>
    cases branch with
    | reference name => exact ht
    | schema rules' properties' items' additional' combinations' =>
      show (rules.allowed.or rules'.allowed).bind List.head? = none
      cases ha : rules.allowed with
      | none => exact hb
      | some values =>
        have hhead : rules.allowed.bind List.head? = none := ht
        rw [ha] at hhead
        exact hhead

/-! ## Parts of an example -/

section Parts

variable {options : ExampleOptions} {depth : Nat} {node : Node}

theorem mem_exampleMembers_calls (hb : node.ByKind) (hk : node.effectiveKind? = some .object)
    (hroom : depth < options.maxDepth) {m : String × Json} (h : m ∈ node.exampleMembers options (depth + 1)) :
    m.2 = placeholder ∨
      ∃ child, Calls options (depth, node) (depth + 1, child) ∧ m.2 = exampleAt options (depth + 1) child := by
  have hdeclared : ∀ {m : String × Json},
      m ∈ withRequired node.rules.required (Json.membersOf (node.declaredExamples options (depth + 1))) →
        m.2 = placeholder ∨
          ∃ child, Calls options (depth, node) (depth + 1, child) ∧ m.2 = exampleAt options (depth + 1) child := by
    intro m hm
    rcases mem_withRequired hm with hm | ⟨-, -, hv⟩
    · obtain ⟨child, hp, hwanted, hv⟩ := mem_declaredExamples.1 (Json.mem_of_mem_membersOf hm)
      have hrequired : options.requiredOnly = true → node.isRequired m.1 = true :=
        fun honly => List.contains_iff_mem.2 (hwanted honly)
      exact .inr ⟨child, .property hb hk hroom hp hrequired, hv⟩
    · exact .inl hv
  unfold exampleMembers at h
  dsimp only at h
  split at h
  · next child ha =>
    split at h
    · exact hdeclared h
    · next hs =>
      rw [Bool.or_eq_true, not_or, Bool.not_eq_true, Option.not_isSome_iff_eq_none] at hs
      rcases Json.mem_setMember h with rfl | h
      · exact .inr ⟨child, .additional hb hk hroom ha hs.1 hs.2, rfl⟩
      · exact hdeclared h
  · exact hdeclared h
  · exact hdeclared h

theorem mem_exampleItems_calls (hb : node.ByKind) (hk : node.effectiveKind? = some .array)
    (hroom : depth < options.maxDepth) {value : Json} (h : value ∈ node.exampleItems options (depth + 1)) :
    value = placeholder ∨
      ∃ child, Calls options (depth, node) (depth + 1, child) ∧ value = exampleAt options (depth + 1) child := by
  unfold exampleItems at h
  split at h
  · next child hi => exact .inr ⟨child, .items hb hk hroom hi, List.mem_singleton.1 h⟩
  · exact .inl (List.mem_singleton.1 h)

/-! ## Depths in an example -/

theorem within_exampleOfKind (hb : node.ByKind) (hdepth : depth ≤ options.maxDepth)
    (h : ∀ next, Calls options (depth, node) next → next.1 ≤ options.maxDepth →
      (exampleAt options next.1 next.2).Within options.maxDepth next.1) :
    (node.exampleOfKind options depth).Within options.maxDepth depth := by
  have hplaceholder : placeholder.Within options.maxDepth (depth + 1) := Json.within_of_partCount?_eq_none rfl
  unfold exampleOfKind
  cases hk : node.effectiveKind? with
  | none =>
    dsimp only
    cases hf : node.firstAlternative? with
    | none => exact Json.within_of_partCount?_eq_none rfl
    | some branch => exact h _ (.alternative hb hk hf) hdepth
  | some kind =>
    cases kind with
    | object =>
      by_cases hroom : options.maxDepth ≤ depth
      · dsimp only
        rw [if_pos hroom]
        exact Json.within_object hdepth (fun hne => absurd rfl hne) (List.forall_mem_nil _)
      · have hlt := Nat.lt_of_not_le hroom
        dsimp only
        rw [if_neg hroom]
        refine Json.within_object hdepth (fun _ => hlt) fun m hm => ?_
        rcases mem_exampleMembers_calls hb hk hlt hm with hv | ⟨child, hcall, hv⟩
        · exact hv ▸ hplaceholder
        · exact hv ▸ h _ hcall hlt
    | array =>
      by_cases hroom : options.maxDepth ≤ depth
      · dsimp only
        rw [if_pos hroom]
        exact Json.within_array hdepth (fun hne => absurd rfl hne) (List.forall_mem_nil _)
      · have hlt := Nat.lt_of_not_le hroom
        dsimp only
        rw [if_neg hroom]
        refine Json.within_array hdepth (fun _ => hlt) fun value hv => ?_
        rcases mem_exampleItems_calls hb hk hlt hv with hv | ⟨child, hcall, hv⟩
        · exact hv ▸ hplaceholder
        · exact hv ▸ h _ hcall hlt
    | number =>
      dsimp only
      cases node.rules.exampleNumber? <;> exact Json.within_of_partCount?_eq_none rfl
    | other tag => exact absurd hk (node.effectiveKind?_ne_other tag)
    | _ => exact Json.within_of_partCount?_eq_none rfl

/-- **The depth of a call bounds the depth of what it gives.** -/
theorem within_exampleAt (h : node.Everywhere ListsNone) (hdepth : depth ≤ options.maxDepth) :
    (exampleAt options depth node).Within options.maxDepth depth := by
  induction depth, node using Calls.induction options with
  | step depth node ih =>
    have hbelow : ∀ next, Calls options (depth, node) next → next.1 ≤ options.maxDepth →
        (exampleAt options next.1 next.2).Within options.maxDepth next.1 := fun next hn hle =>
      ih next hn (hn.everywhere (P := ListsNone) ListsNone.withoutAllOf ListsNone.absorb h) hle
    have hfree : node.rules.allowed.bind List.head? = none := h.here
    cases hm : node.merged? with
    | some merged =>
      rw [exampleAt_of_merged?_eq_some hfree hm]
      exact hbelow _ (.merged hfree hm) hdepth
    | none =>
      rw [exampleAt_of_merged?_eq_none hfree hm]
      exact within_exampleOfKind ⟨hfree, hm⟩ hdepth hbelow

end Parts

/-- **No example is deeper than it may be.** If no node of the schema lists an allowed value, then in its example each
array and each object lies at the greatest depth or above, and those that are not empty lie above it, whatever is merged
and whichever alternatives are taken on the way. -/
theorem toExample_within {node : Node} (h : node.Everywhere ListsNone) (options : ExampleOptions) {depth : Nat}
    {part : Json} (hp : (node.toExample options).LiesAt depth part) {count : Nat} (hc : part.partCount? = some count) :
    depth ≤ options.maxDepth ∧ (count ≠ 0 → depth < options.maxDepth) := by
  have hwithin : (exampleAt options 0 node).Within options.maxDepth 0 := within_exampleAt h (Nat.zero_le _)
  have hpart := hwithin depth part hp count hc
  rwa [Nat.zero_add] at hpart

/-- An object with an object and a list in it, as an alternative in a branch. -/
def shelfSchema : Json :=
  .object [
    ("allOf", .array [
      .object [("anyOf", .array [
        .object [("properties", .object [
          ("box", .object [("properties", .object [("label", .object [])])]),
          ("row", .object [("items", .object [])])])]])]])]

def shelfBox : Node := schema {} [("label", any)] none .open []

def shelfRow : Node := schema {} [] (some any) .open []

def shelfParts : Node := schema {} [("box", shelfBox), ("row", shelfRow)] none .open []

def shelf : Node := schema {} [] none .open [(.allOf, [schema {} [] none .open [(.anyOf, [shelfParts])]])]

theorem everywhere_listsNone_shelf : shelf.Everywhere ListsNone := by
  have hany : any.Everywhere ListsNone := everywhere_schema rfl nofun nofun nofun nofun
  have hbox : shelfBox.Everywhere ListsNone :=
    everywhere_schema rfl (List.forall_mem_singleton.2 hany) nofun nofun nofun
  have hrow : shelfRow.Everywhere ListsNone := by
    refine everywhere_schema rfl nofun (fun child hi => ?_) nofun nofun
    obtain rfl := Option.some.inj hi
    exact hany
  have hparts : shelfParts.Everywhere ListsNone :=
    everywhere_schema rfl (List.forall_mem_cons.2 ⟨hbox, List.forall_mem_singleton.2 hrow⟩) nofun nofun nofun
  refine everywhere_schema rfl nofun nofun nofun (List.forall_mem_singleton.2 (List.forall_mem_singleton.2 ?_))
  exact everywhere_schema rfl nofun nofun nofun (List.forall_mem_singleton.2 (List.forall_mem_singleton.2 hparts))

/-- At the greatest depth the object and the list stay empty. -/
theorem toExample_within_shelf :
    compile shelfSchema = .ok shelf ∧ shelf.Everywhere ListsNone ∧
      shelf.toExample ⟨false, 1⟩ = .object [("box", .object []), ("row", .array [])] ∧
      (shelf.toExample ⟨false, 1⟩).LiesAt 1 (.array []) ∧ (1 ≤ 1 ∧ (0 ≠ 0 → 1 < 1)) ∧
      ∃ part, (shelf.toExample ⟨false, 1⟩).LiesAt 0 part ∧ part.partCount? = some 2 ∧ (2 ≠ 0 → 0 < 1) := by
  have hexample : shelf.toExample ⟨false, 1⟩ = .object [("box", .object []), ("row", .array [])] := by
    rw [toExample_eq_iterate]
    rfl
  have hrow : (shelf.toExample ⟨false, 1⟩).LiesAt 1 (.array []) := by
    rw [hexample]
    exact .member (List.mem_cons_of_mem _ (List.mem_singleton_self _)) .here
  have hcount : (shelf.toExample ⟨false, 1⟩).partCount? = some 2 := by
    rw [hexample]
    rfl
  have hlists := everywhere_listsNone_shelf
  exact ⟨by rfl, hlists, hexample, hrow, toExample_within hlists ⟨false, 1⟩ hrow rfl, _, .here, hcount,
    (toExample_within hlists ⟨false, 1⟩ .here hcount).2⟩

end Node

end Schemata
