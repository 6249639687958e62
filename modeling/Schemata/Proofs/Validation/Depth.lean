import Schemata.Proofs.Validation.Violations

/-!
# Further down less is found

* `Rules.violations_eq_nil_iff` : whether a node finds something at a value does not depend on the place;
* `Visit.errors_eq_nil_of_le` : a value that is fine at one place is fine at any place that is as deep or deeper.
-/

namespace Schemata

theorem Rules.violations_eq_nil_iff {rules : Rules} {path : FieldPath} {value : Json} :
    rules.violations path value = [] ↔ ∀ kind sub, ¬ rules.Breaks value kind sub := by
  constructor
  · intro h kind sub hb
    obtain ⟨e, he, -⟩ := exists_mem_violations_of_breaks hb path
    rw [h] at he
    cases he
  · intro h
    refine List.eq_nil_iff_forall_not_mem.2 fun e he => ?_
    obtain ⟨sub, hb, -⟩ := breaks_of_mem_violations he
    exact h e.kind sub hb

namespace Visit

theorem errors_eq_nil {limit : Nat} {v : Visit} (hf : v.node.rules.fits v.value = true)
    (ha : v.node.rules.allowed = none) (hc : v.node.rules.checkContent v.path v.value = [])
    (below : ∀ w, v.Step w → w.errors limit = []) : v.errors limit = [] := by
  by_cases hv : v.Open limit
  · rw [errors_of_open hv, Rules.violations_of_fits hf, Rules.checkAllowed_of_allowed ha, hc, if_pos hf]
    exact List.flatMap_eq_nil_iff.2 fun w hw => below w (mem_children_iff.1 hw)
  · exact errors_of_not_open hv

/-- A step does not depend on the place where it starts. -/
theorem Step.move {far : FieldPath} {node : Node} {value : Json} {w : Visit}
    (h : (⟨far, node, value⟩ : Visit).Step w) (near : FieldPath) :
    ∃ segment, w.path = far ++ [segment] ∧
      (⟨near, node, value⟩ : Visit).Step ⟨near ++ [segment], w.node, w.value⟩ := by
  cases h with
  | property declared there => exact ⟨_, rfl, .property declared there⟩
  | additional constrained undeclared there => exact ⟨_, rfl, .additional constrained undeclared there⟩
  | item items there => exact ⟨_, rfl, .item items there⟩

theorem errors_eq_nil_of_le {limit : Nat} {near far : FieldPath} (hle : near.length ≤ far.length) {node : Node}
    {value : Json} (h : errors limit ⟨near, node, value⟩ = []) : errors limit ⟨far, node, value⟩ = [] := by
  by_cases hfar : Open limit ⟨far, node, value⟩
  · have hnear : Open limit ⟨near, node, value⟩ := ⟨Nat.le_trans hle hfar.within, hfar.known, hfar.unexcused⟩
    rw [errors_of_open hnear, List.append_eq_nil_iff] at h
    obtain ⟨hown, hbelow⟩ := h
    rw [errors_of_open hfar, List.append_eq_nil_iff]
    refine ⟨Rules.violations_eq_nil_iff.2 (Rules.violations_eq_nil_iff.1 hown), ?_⟩
    by_cases hf : node.rules.fits value = true
    · rw [if_pos hf, List.flatMap_eq_nil_iff] at hbelow ⊢
      intro w hw
      have hstep := mem_children_iff.1 hw
      obtain ⟨segment, hpath, hmoved⟩ := hstep.move near
      have := hstep.count_lt
      have hlen : (near ++ [segment]).length ≤ w.path.length := by
        rw [hpath, List.length_append, List.length_append]
        exact Nat.add_le_add_right hle 1
      exact errors_eq_nil_of_le hlen (hbelow _ (mem_children_iff.2 hmoved))
    · rw [if_neg hf]
  · exact errors_of_not_open hfar
termination_by node.count

end Visit

end Schemata
