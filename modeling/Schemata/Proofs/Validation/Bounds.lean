import Schemata.Proofs.Number.Integer
import Schemata.Proofs.Validation.Violations

/-!
# Integers and their bounds

* `Bound.rejectsBelow_iff_lt`, `Bound.rejectsAbove_iff_lt` : an integer is out of bounds where it is as an integer;
* `Rules.exists_mem_checkNumber_iff` : a number is reported by a kind if the bound of this kind rejects it;
* `Rules.checkNumber_integer` : so integers are held to integer bounds exactly, however large they are.
-/

namespace Schemata

section Limits

variable {v limit : Int} (hv : -0x8000000000000000 ≤ v ∧ v < 0x10000000000000000)
  (hlimit : -0x8000000000000000 ≤ limit ∧ limit < 0x10000000000000000) (exclusive : Bool)

theorem Bound.rejectsBelow_iff_lt :
    (Bound.mk (.integer limit hlimit) exclusive).rejectsBelow (.integer v hv) = true ↔
      v < limit ∨ v = limit ∧ exclusive = true := by
  rw [rejectsBelow_iff, Number.compare_integer, compare_lt_iff_lt, compare_eq_iff_eq, and_comm]

theorem Bound.rejectsAbove_iff_lt :
    (Bound.mk (.integer limit hlimit) exclusive).rejectsAbove (.integer v hv) = true ↔
      limit < v ∨ v = limit ∧ exclusive = true := by
  rw [rejectsAbove_iff, Number.compare_integer, compare_gt_iff_gt, compare_eq_iff_eq, and_comm]

end Limits

namespace Rules

theorem exists_mem_keyword_iff {α : Type} {asked : Option α} {meets : α → Bool} {violation : α → Violation}
    {own : ViolationKind} (hown : ∀ a, (violation a).kind = own) (kind : ViolationKind) :
    (∃ e ∈ keyword asked meets violation, e.kind = kind) ↔ own = kind ∧ ∃ a ∈ asked, meets a = false := by
  constructor
  · rintro ⟨e, he, rfl⟩
    obtain ⟨a, ha, broken, rfl⟩ := mem_keyword.1 he
    exact ⟨(hown a).symm, a, ha, broken⟩
  · rintro ⟨rfl, a, ha, broken⟩
    exact ⟨violation a, mem_keyword.2 ⟨a, ha, broken, rfl⟩, hown a⟩

theorem exists_mem_checkNumber_iff (rules : Rules) (path : FieldPath) (n : Number) (kind : ViolationKind) :
    (∃ e ∈ rules.checkNumber path n, e.kind = kind) ↔
      (.minimum = kind ∧ ∃ b ∈ rules.minimum, b.rejectsBelow n = true) ∨
        (.maximum = kind ∧ ∃ b ∈ rules.maximum, b.rejectsAbove n = true) := by
  have hleast : (∃ e ∈ rules.checkMinimum path n, e.kind = kind) ↔
      .minimum = kind ∧ ∃ b ∈ rules.minimum, (!b.rejectsBelow n) = false := by
    unfold checkMinimum
    refine exists_mem_keyword_iff ?_ kind
    exact fun _ => rfl
  have hmost : (∃ e ∈ rules.checkMaximum path n, e.kind = kind) ↔
      .maximum = kind ∧ ∃ b ∈ rules.maximum, (!b.rejectsAbove n) = false := by
    unfold checkMaximum
    refine exists_mem_keyword_iff ?_ kind
    exact fun _ => rfl
  simp only [Bool.not_eq_false'] at hleast hmost
  simp only [mem_checkNumber, or_and_right, exists_or, hleast, hmost]

/-- **Integers are held to integer bounds exactly.** Two integers are compared as integers, also where only their nearest
doubles are looked at; so an integer is reported as too small if and only if it is below the minimum, or is an excluded
minimum, and as too large if and only if it is above the maximum, or is an excluded one. -/
theorem checkNumber_integer (v limit : Int) (hv : -0x8000000000000000 ≤ v ∧ v < 0x10000000000000000)
    (hlimit : -0x8000000000000000 ≤ limit ∧ limit < 0x10000000000000000) :
    Number.compare (.integer v hv) (.integer limit hlimit) = Ord.compare v limit ∧
      ∀ (rules : Rules) (path : FieldPath) (exclusive : Bool),
        (rules.minimum = some ⟨.integer limit hlimit, exclusive⟩ →
          ((∃ e ∈ rules.checkNumber path (.integer v hv), e.kind = .minimum) ↔
            v < limit ∨ v = limit ∧ exclusive = true)) ∧
        (rules.maximum = some ⟨.integer limit hlimit, exclusive⟩ →
          ((∃ e ∈ rules.checkNumber path (.integer v hv), e.kind = .maximum) ↔
            limit < v ∨ v = limit ∧ exclusive = true)) := by
  refine ⟨Number.compare_integer hv hlimit, fun rules path exclusive => ⟨fun asked => ?_, fun asked => ?_⟩⟩
  · rw [exists_mem_checkNumber_iff, asked, ← Bound.rejectsBelow_iff_lt hv hlimit]
    simp
  · rw [exists_mem_checkNumber_iff, asked, ← Bound.rejectsAbove_iff_lt hv hlimit]
    simp

def wordRules : Rules :=
  { minimum := some ⟨.ofNat 0x20000000000001, false⟩
    maximum := some ⟨.ofNat 0xffffffffffffffff, true⟩ }

theorem checkNumber_integer_edges :
    (∃ e ∈ wordRules.checkNumber [] (.integer 0x20000000000000 (by decide)), e.kind = .minimum) ∧
      (¬ ∃ e ∈ wordRules.checkNumber [] (.integer 0x20000000000001 (by decide)), e.kind = .minimum) ∧
      Number.compare (.integer (-0x8000000000000000) (by decide)) (.integer 0xffffffffffffffff (by decide)) = .lt ∧
      (¬ ∃ e ∈ wordRules.checkNumber [] (.integer (-0x8000000000000000) (by decide)), e.kind = .maximum) ∧
      (¬ ∃ e ∈ wordRules.checkNumber [] (.integer 0xfffffffffffffffe (by decide)), e.kind = .maximum) ∧
      ∃ e ∈ wordRules.checkNumber [] (.integer 0xffffffffffffffff (by decide)), e.kind = .maximum := by
  have hbelow := checkNumber_integer 0x20000000000000 0x20000000000001 (by decide) (by decide)
  have hleast := checkNumber_integer 0x20000000000001 0x20000000000001 (by decide) (by decide)
  have hfar := checkNumber_integer (-0x8000000000000000) 0xffffffffffffffff (by decide) (by decide)
  have hinside := checkNumber_integer 0xfffffffffffffffe 0xffffffffffffffff (by decide) (by decide)
  have hmost := checkNumber_integer 0xffffffffffffffff 0xffffffffffffffff (by decide) (by decide)
  refine ⟨((hbelow.2 wordRules [] false).1 rfl).2 (by decide), ?_, hfar.1.trans (by decide), ?_, ?_, ?_⟩
  · exact mt ((hleast.2 wordRules [] false).1 rfl).1 (by decide)
  · exact mt ((hfar.2 wordRules [] true).2 rfl).1 (by decide)
  · exact mt ((hinside.2 wordRules [] true).2 rfl).1 (by decide)
  · exact ((hmost.2 wordRules [] true).2 rfl).2 (by decide)

end Rules

end Schemata
