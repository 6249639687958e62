import Mathlib.Order.Compare
import Schemata.Example.Numeric
import Schemata.Proofs.Number.Rounding

/-!
# Integers and their nearest doubles

* `Double.units_eq_mul_one_iff` : a double has the value of an integer if it has no fractional part;
* `Double.units_ofInt`, `Double.units_plus` : the nearest double of an integer, and its sum with a small one;
* `Double.isIntegral_ofInt` : the nearest double of an integer is integral, so nothing is left to round up or down;
* `Double.IsExact`, `Double.isExact_of_lt` : a double can hold the integer, as it does any one of 53 bits;
* `Number.compare_integer` : integers are compared exactly.
-/

namespace Schemata

theorem natCast_eq_mul_iff {m u : Nat} (hu : 0 < u) {i : Int} :
    (m : Int) = i * u ↔ m % u = 0 ∧ ((m / u : Nat) : Int) = i := by
  constructor
  · intro h
    have hd : u ∣ m := Int.natCast_dvd_natCast.1 ⟨i, by rw [h, Int.mul_comm]⟩
    refine ⟨Nat.mod_eq_zero_of_dvd hd, ?_⟩
    rw [Int.natCast_ediv, h, Int.mul_ediv_cancel _ (by omega)]
  · rintro ⟨hm, rfl⟩
    exact_mod_cast (Nat.div_mul_cancel (Nat.dvd_of_mod_eq_zero hm)).symm

namespace Double

theorem one_pos : 0 < one := by decide

theorem units_eq_mul_one_iff (x : Double) (i : Int) :
    x.units = i * one ↔ x.isIntegral = true ∧ x.truncate = i := by
  rw [units, truncate, isIntegral, beq_iff_eq]
  cases x.neg with
  | false => exact natCast_eq_mul_iff one_pos
  | true =>
    rw [if_pos rfl, if_pos rfl]
    calc -(x.magnitude : Int) = i * one
      _ ↔ (x.magnitude : Int) = -i * one := by rw [Int.neg_mul]; omega
      _ ↔ x.magnitude % one = 0 ∧ ((x.magnitude / one : Nat) : Int) = -i := natCast_eq_mul_iff one_pos
      _ ↔ x.magnitude % one = 0 ∧ -((x.magnitude / one : Nat) : Int) = i := by omega

/-! ## The nearest double of an integer -/

/-- The exponent of `1` in units, as a name: its power of two is not to be computed. -/
def oneExponent : Nat := 1074

theorem one_eq : one = 2 ^ oneExponent := Nat.one_shiftLeft oneExponent

theorem natAbs_mul_one (n : Int) : (n * one).natAbs = n.natAbs * one := Int.natAbs_mul n one

/-- No integer of 66 bits is beyond the finite range. -/
theorem binade_mul_one_lt {k : Nat} (h : k < 2 ^ 66) : binade (k * one) < 2045 := by
  have hle : binade (k * one) ≤ 13 + oneExponent := by
    refine binade_le_of_lt ?_
    calc k * one < 2 ^ 66 * one := Nat.mul_lt_mul_of_pos_right h one_pos
      _ = 2 ^ (66 + oneExponent) := by rw [one_eq, Nat.pow_add 2 66 oneExponent]
      _ = 2 ^ (53 + (13 + oneExponent)) := by rw [← Nat.add_assoc]
  unfold oneExponent at hle
  omega

theorem rounded_mul_one {n : Int} (h : n.natAbs < 2 ^ 53) : rounded (n * one) = n * one := by
  have hkeep := rounded_mul_two_pow h oneExponent
  rw [one_eq]
  push_cast
  exact hkeep

variable {n : Int}

theorem ofInt_fields (h : n.natAbs < 2 ^ 66) :
    (ofInt n).neg = decide (n < 0) ∧ (ofInt n).magnitude = nearest (n.natAbs * one) := by
  obtain ⟨x, hx, hneg, hmagnitude⟩ := exists_round? (decide (n < 0)) (binade_mul_one_lt h)
  rw [ofInt, hx]
  exact ⟨hneg, hmagnitude⟩

theorem units_ofInt (h : n.natAbs < 2 ^ 66) : (ofInt n).units = rounded (n * one) := by
  obtain ⟨hneg, hmagnitude⟩ := ofInt_fields h
  have hone : (0 : Int) < one := Int.natCast_pos.2 one_pos
  have hsign : n * one < 0 ↔ n < 0 := by
    rw [Int.mul_neg_iff]
    omega
  unfold units rounded
  rw [hneg, hmagnitude, natAbs_mul_one]
  simp only [decide_eq_true_eq, hsign]

/-- Rounding makes no fraction of an integer. -/
theorem one_dvd_nearest (k : Nat) : one ∣ nearest (k * one) := by
  by_cases hsmall : k < 2 ^ 53
  · have hkeep := nearest_mul_two_pow hsmall oneExponent
    rw [← one_eq] at hkeep
    rw [hkeep]
    exact Nat.dvd_mul_left one k
  · -- The binade is above that of the ones.
    have hlog : 53 + oneExponent ≤ (k * one).log2 := by
      have hpos : k * one ≠ 0 := Nat.mul_ne_zero (by omega) (Nat.ne_of_gt one_pos)
      refine (Nat.le_log2 hpos).2 ?_
      rw [Nat.pow_add 2 53 oneExponent, ← one_eq]
      exact Nat.mul_le_mul_right one (by omega)
    have hlarge : ¬ k * one < 2 ^ 53 := by
      have hle : 1 * 2 ^ 53 ≤ one * k := Nat.mul_le_mul one_pos (by omega)
      rw [Nat.mul_comm k one]
      omega
    have hbinade : oneExponent ≤ binade (k * one) := by
      unfold binade
      rw [two_pow_53, if_neg hlarge]
      omega
    have hdvd : one ∣ 2 ^ binade (k * one) := by
      conv => lhs; rw [one_eq]
      exact Nat.pow_dvd_pow 2 hbinade
    exact Nat.dvd_trans hdvd (Nat.dvd_mul_left _ _)

theorem isIntegral_ofInt (h : n.natAbs < 2 ^ 66) : (ofInt n).isIntegral = true := by
  rw [isIntegral, (ofInt_fields h).2, Nat.mod_eq_zero_of_dvd (one_dvd_nearest _)]
  rfl

theorem floor_ofInt (h : n.natAbs < 2 ^ 66) : (ofInt n).floor = ofInt n := if_pos (isIntegral_ofInt h)

theorem ceil_ofInt (h : n.natAbs < 2 ^ 66) : (ofInt n).ceil = ofInt n := if_pos (isIntegral_ofInt h)

theorem units_ofInt_neg (h : n.natAbs < 2 ^ 66) (hn : n < 0) : (ofInt n).units < 0 := by
  have hone : (0 : Int) < one := Int.natCast_pos.2 one_pos
  have hle : n * one ≤ -1 * one := Int.mul_le_mul_of_nonneg_right (by omega) (by omega)
  have hkeep : rounded (-1 * one) = -1 * one := rounded_mul_one (by decide)
  have hmono := rounded_mono hle
  rw [units_ofInt h]
  omega

theorem units_ofInt_pos (h : n.natAbs < 2 ^ 66) (hn : 0 < n) : 0 < (ofInt n).units := by
  have hone : (0 : Int) < one := Int.natCast_pos.2 one_pos
  have hle : 1 * (one : Int) ≤ n * one := Int.mul_le_mul_of_nonneg_right (by omega) (by omega)
  have hkeep : rounded (1 * one) = 1 * one := rounded_mul_one (by decide)
  have hmono := rounded_mono hle
  rw [units_ofInt h]
  omega

theorem units_plus {x : Double} {k : Int} (hk : k.natAbs < 2 ^ 53)
    (h : binade (x.units + k * one).natAbs < 2045) : (x.plus k).units = rounded (x.units + k * one) := by
  have hofInt : (ofInt k).units = k * one := by
    rw [units_ofInt (by omega), rounded_mul_one hk]
  unfold plus add?
  rw [hofInt]
  dsimp only
  split
  · next hzero =>
    have hrounded : rounded 0 = 0 := by
      rw [rounded, Int.natAbs_zero, nearest_zero]
      rfl
    rw [hzero, hrounded, Option.getD_some]
    cases (x.neg && (ofInt k).neg) with
    | true => rfl
    | false => rfl
  · obtain ⟨y, hy, hunits⟩ := exists_round?_units h
    rw [hy, Option.getD_some, hunits]

/-- A double can hold the integer. -/
def IsExact (n : Int) : Prop := (ofInt n).units = n * one

theorem rounded_of_isExact (h : n.natAbs < 2 ^ 66) (hexact : IsExact n) : rounded (n * one) = n * one := by
  rw [← units_ofInt h]
  exact hexact

theorem isExact_of_lt (h : n.natAbs < 2 ^ 53) : IsExact n := by
  unfold IsExact
  rw [units_ofInt (by omega), rounded_mul_one h]

theorem units_ofInt_plus (hn : n.natAbs < 2 ^ 65) {k : Int} (hk : k.natAbs ≤ 1) :
    ((ofInt n).plus k).units = rounded (rounded (n * one) + k * one) := by
  have hunits : (ofInt n).units = rounded (n * one) := units_ofInt (by omega)
  have hle : ((ofInt n).units + k * one).natAbs ≤ (2 * n.natAbs + 1) * one := by
    have hrounded : (rounded (n * one)).natAbs ≤ 2 * (n.natAbs * one) := by
      rw [natAbs_rounded, natAbs_mul_one]
      exact nearest_le_double _
    calc ((ofInt n).units + k * one).natAbs ≤ (ofInt n).units.natAbs + (k * one).natAbs := Int.natAbs_add_le _ _
      _ ≤ 2 * (n.natAbs * one) + 1 * one := by
        rw [hunits, natAbs_mul_one]
        exact Nat.add_le_add hrounded (Nat.mul_le_mul_right one hk)
      _ = (2 * n.natAbs + 1) * one := by rw [Nat.add_mul, Nat.mul_assoc]
  rw [← hunits]
  refine units_plus (by omega) ?_
  exact Nat.lt_of_le_of_lt (binade_mono hle) (binade_mul_one_lt (by omega))

end Double

/-! ## The order of integers -/

/-- **Integers are compared exactly.** Where their nearest doubles are compared, the signs differ. -/
theorem Number.compare_integer {a b : Int} (ha : -0x8000000000000000 ≤ a ∧ a < 0x10000000000000000)
    (hb : -0x8000000000000000 ≤ b ∧ b < 0x10000000000000000) :
    Number.compare (.integer a ha) (.integer b hb) = Ord.compare a b := by
  unfold Number.compare
  dsimp only
  split
  · rfl
  · next hfar =>
    have hfits : ∀ n : Int, -0x8000000000000000 ≤ n ∧ n < 0x10000000000000000 → n.natAbs < 2 ^ 66 := by
      intro n hn
      omega
    have hsigns : a < 0 ∧ 0 < b ∨ b < 0 ∧ 0 < a := by omega
    rcases hsigns with ⟨hneg, hpos⟩ | ⟨hneg, hpos⟩
    · have hleft := Double.units_ofInt_neg (hfits a ha) hneg
      have hright := Double.units_ofInt_pos (hfits b hb) hpos
      have hdoubles : (Double.ofInt a).compare (Double.ofInt b) = .lt := compare_lt_iff_lt.2 (by omega)
      have hintegers : Ord.compare a b = .lt := compare_lt_iff_lt.2 (by omega)
      rw [hdoubles, hintegers]
    · have hleft := Double.units_ofInt_pos (hfits a ha) hpos
      have hright := Double.units_ofInt_neg (hfits b hb) hneg
      have hdoubles : (Double.ofInt a).compare (Double.ofInt b) = .gt := compare_gt_iff_gt.2 (by omega)
      have hintegers : Ord.compare a b = .gt := compare_gt_iff_gt.2 (by omega)
      rw [hdoubles, hintegers]

end Schemata
