import Schemata.Proofs.Number.Integer

/-!
# Numbers of equal value

* `Number.compare_eq_iff` : two numbers are equal by `compare` if their nearest doubles are, and two integers only if
  they are the same; hence `compare_self` and `compare_eq_comm`;
* `Number.Blurs` : the number is a double that is nearest to several integers;
* `Number.compare_eq_trans_iff` : equality passes through a number if and only if it does not blur;
* `Number.not_blurs_of_lt` : no number below `2^53` does.
-/

namespace Schemata.Number

def isInteger : Number → Bool
  | integer _ _ => true
  | double _ => false

variable {m n k : Number}

theorem compare_eq_iff : m.compare n = .eq ↔
    m.toDouble.units = n.toDouble.units ∧ (m.isInteger = true → n.isInteger = true → m = n) := by
  cases m with
  | integer a ha =>
    cases n with
    | integer b hb =>
      rw [compare_integer, compare_eq_iff_eq]
      constructor
      · rintro rfl
        exact ⟨rfl, fun _ _ => rfl⟩
      · exact fun h => (integer.inj (h.2 rfl rfl))
    | double y => exact compare_eq_iff_eq.trans ⟨fun h => ⟨h, fun _ => nofun⟩, And.left⟩
  | double x => exact compare_eq_iff_eq.trans ⟨fun h => ⟨h, nofun⟩, And.left⟩

theorem compare_self (n : Number) : n.compare n = .eq := compare_eq_iff.2 ⟨rfl, fun _ _ => rfl⟩

theorem compare_eq_comm : m.compare n = .eq ↔ n.compare m = .eq := by
  rw [compare_eq_iff, compare_eq_iff]
  constructor
  · exact fun ⟨hunits, hsame⟩ => ⟨hunits.symm, fun hn hm => (hsame hm hn).symm⟩
  · exact fun ⟨hunits, hsame⟩ => ⟨hunits.symm, fun hm hn => (hsame hn hm).symm⟩

/-- A double that is the nearest one to several integers. -/
def Blurs (n : Number) : Prop :=
  n.isInteger = false ∧ ∃ m k : Number, m.isInteger = true ∧ k.isInteger = true ∧ m ≠ k ∧
    m.toDouble.units = n.toDouble.units ∧ k.toDouble.units = n.toDouble.units

/-- Where equality does not pass through a number, there are integers on both sides. -/
theorem compare_eq_trans_iff :
    (∀ m k : Number, m.compare n = .eq → n.compare k = .eq → m.compare k = .eq) ↔ ¬ n.Blurs := by
  constructor
  · rintro htrans ⟨hn, m, k, hm, hk, hne, hleft, hright⟩
    have hmn : m.compare n = .eq := compare_eq_iff.2 ⟨hleft, fun _ h => nomatch hn.symm.trans h⟩
    have hnk : n.compare k = .eq := compare_eq_iff.2 ⟨hright.symm, fun h => nomatch hn.symm.trans h⟩
    exact hne ((compare_eq_iff.1 (htrans m k hmn hnk)).2 hm hk)
  · intro hsharp m k hmn hnk
    obtain ⟨hleft, hmn⟩ := compare_eq_iff.1 hmn
    obtain ⟨hright, hnk⟩ := compare_eq_iff.1 hnk
    refine compare_eq_iff.2 ⟨hleft.trans hright, fun hm hk => ?_⟩
    cases hn : n.isInteger with
    | true => exact (hmn hm hn).trans (hnk hn hk)
    | false => exact by_contra fun hne => hsharp ⟨hn, m, k, hm, hk, hne, hleft, hright.symm⟩

/-- The nearest double of an integer is below `2^53` only if the integer is, and then it has the same value. -/
theorem units_toDouble_of_lt (hm : m.isInteger = true) (h : m.toDouble.units.natAbs < 2 ^ 53 * Double.one) :
    ∃ a range, m = integer a range ∧ m.toDouble.units = a * Double.one := by
  cases m with
  | double x => cases hm
  | integer a range =>
    refine ⟨a, range, rfl, ?_⟩
    show (Double.ofInt a).units = a * Double.one
    have hfits : a.natAbs < 2 ^ 66 := by omega
    refine Double.isExact_of_lt (by_contra fun hlarge => ?_)
    have hkeep : Double.nearest (2 ^ 53 * Double.one) = 2 ^ 53 * Double.one := by
      have hpow : 2 ^ 53 * Double.one = 1 * 2 ^ (53 + Double.oneExponent) := by
        rw [Double.one_eq, Nat.pow_add 2 53 Double.oneExponent, Nat.one_mul]
      rw [hpow]
      exact Double.nearest_mul_two_pow (by decide) _
    have hmono : Double.nearest (2 ^ 53 * Double.one) ≤ Double.nearest (a.natAbs * Double.one) :=
      Double.nearest_mono (Nat.mul_le_mul_right _ (Nat.le_of_not_lt hlarge))
    have hunits : (Double.ofInt a).units.natAbs = Double.nearest (a.natAbs * Double.one) := by
      rw [Double.units_ofInt hfits, Double.natAbs_rounded, Double.natAbs_mul_one]
    have hlt : (Double.ofInt a).units.natAbs < 2 ^ 53 * Double.one := h
    rw [hunits] at hlt
    rw [hkeep] at hmono
    exact absurd (Nat.lt_of_le_of_lt hmono hlt) (Nat.lt_irrefl _)

theorem not_blurs_of_lt (h : n.toDouble.units.natAbs < 2 ^ 53 * Double.one) : ¬ n.Blurs := by
  rintro ⟨-, m, k, hm, hk, hne, hleft, hright⟩
  obtain ⟨a, ha, rfl, hunits⟩ := units_toDouble_of_lt hm (hleft ▸ h)
  obtain ⟨b, hb, rfl, hunits'⟩ := units_toDouble_of_lt hk (hright ▸ h)
  have hone : (Double.one : Int) ≠ 0 := Int.ofNat_ne_zero.2 (Nat.ne_of_gt Double.one_pos)
  have hab : a * (Double.one : Int) = b * Double.one := by rw [← hunits, ← hunits', hleft, hright]
  obtain rfl := Int.eq_of_mul_eq_mul_right hone hab
  exact hne rfl

end Schemata.Number
