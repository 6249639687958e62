import Schemata.Proofs.Schema.Normal
import Schemata.Schema.Equality

/-!
# Schemas are the same as themselves

* `Rules.same_refl`, `Node.same_refl` : rules and nodes are the same as themselves, if the values that they allow have
  distinct names.
-/

namespace Schemata

theorem sameOption_refl {α : Type} {same : α → α → Bool} {o : Option α}
    (h : ∀ a, o = some a → same a a = true) : sameOption same o o = true := by
  cases o with
  | none => rfl
  | some a => exact h a rfl

theorem sameList_refl {α : Type} {same : α → α → Bool} {as : List α} (h : ∀ a ∈ as, same a a = true) :
    sameList same as as = true := by
  induction as with
  | nil => rfl
  | cons a rest ih =>
    rw [sameList, h a (List.mem_cons_self ..), Bool.true_and]
    exact ih fun b hb => h b (List.mem_cons_of_mem _ hb)

theorem Bound.same_refl (b : Bound) : b.same b = true := by
  rw [Bound.same, Number.same_refl, Bool.true_and, beq_self_eq_true]

theorem Rules.same_refl {rules : Rules}
    (h : ∀ values, rules.allowed = some values → ∀ value ∈ values, value.hasDistinctNames = true) :
    rules.same rules = true := by
  have ha : sameOption (sameList Json.same) rules.allowed rules.allowed = true :=
    sameOption_refl fun values hv => sameList_refl fun value hm => Json.same_refl (h values hv value hm)
  have hb : ∀ bound, sameOption Bound.same bound bound = true := fun _ => sameOption_refl fun b _ => b.same_refl
  simp only [Rules.same, beq_self_eq_true, ha, hb, Bool.and_self]

namespace Node

theorem sameProperties_refl {properties : List (String × Node)} (h : ∀ p ∈ properties, p.2.same p.2 = true) :
    sameProperties properties properties = true := by
  induction properties with
  | nil => rw [sameProperties]
  | cons entry rest ih =>
    obtain ⟨name, node⟩ := entry
    rw [sameProperties, h (name, node) (List.mem_cons_self ..), beq_self_eq_true]
    exact ih fun p hp => h p (List.mem_cons_of_mem _ hp)

theorem sameNodes_refl {branches : List Node} (h : ∀ b ∈ branches, b.same b = true) :
    sameNodes branches branches = true := by
  induction branches with
  | nil => rw [sameNodes]
  | cons node rest ih =>
    rw [sameNodes, h node (List.mem_cons_self ..)]
    exact ih fun b hb => h b (List.mem_cons_of_mem _ hb)

theorem sameCombinations_refl {combinations : List (Combinator × List Node)}
    (h : ∀ c ∈ combinations, ∀ b ∈ c.2, b.same b = true) :
    sameCombinations combinations combinations = true := by
  induction combinations with
  | nil => rw [sameCombinations]
  | cons entry rest ih =>
    obtain ⟨c, branches⟩ := entry
    rw [sameCombinations, beq_self_eq_true, sameNodes_refl (h (c, branches) (List.mem_cons_self ..))]
    exact ih fun d hd => h d (List.mem_cons_of_mem _ hd)

theorem same_refl {node : Node} (h : node.Everywhere NamesHere) : node.same node = true := by
  induction h with
  | @intro node hn _ ih =>
    cases node with
    | reference target => rw [same, beq_self_eq_true]
    | schema rules properties items additional combinations =>
      have hi : sameItems items items = true := by
        cases items with
        | none => rw [sameItems]
        | some child =>
          rw [sameItems]
          exact ih child (.items rfl)
      have ha : sameAdditional additional additional = true := by
        cases additional with
        | constrained child =>
          rw [sameAdditional]
          exact ih child (.additional rfl)
        | _ => rw [sameAdditional]
      have hr : rules.same rules = true := Rules.same_refl hn.allowed
      have hp : sameProperties properties properties = true :=
        sameProperties_refl fun p hp => ih p.2 (.property hp)
      have hc : sameCombinations combinations combinations = true :=
        sameCombinations_refl fun c hc b hb => ih b (.branch hc hb)
      rw [same, hr, hp, hi, ha, hc]
      rfl

end Node

end Schemata
