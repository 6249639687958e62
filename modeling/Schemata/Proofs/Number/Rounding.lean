import Mathlib.Tactic.NormNum
import Mathlib.Tactic.SplitIfs
import Schemata.Number.Double

/-!
# Rounding to doubles

* `Double.nearest` : the value of a double that is nearest to a number of units, as a natural number;
* `Double.nearest_mono` : rounding keeps the order, also across binades;
* `Double.nearest_mul_two_pow` : what a double can hold is kept;
* `Double.rounded`, `Double.units_round?` : the same with a sign, and that it is what the rounding of doubles gives.
-/

namespace Schemata.Double

/-! ## Division to the nearest -/

/-- A quotient is rounded to itself or the next number. -/
theorem roundDiv_bounds (num den : Nat) : num / den ≤ roundDiv num den ∧ roundDiv num den ≤ num / den + 1 := by
  unfold roundDiv
  dsimp only
  split
  · omega
  · split
    · omega
    · split
      · omega
      · omega

theorem roundDiv_mono {num num' : Nat} (den : Nat) (h : num ≤ num') : roundDiv num den ≤ roundDiv num' den := by
  have hdiv : num / den ≤ num' / den := Nat.div_le_div_right h
  have hnum := Nat.div_add_mod num den
  have hnum' := Nat.div_add_mod num' den
  by_cases heq : num / den = num' / den
  · -- The quotients are equal, so the remainders decide.
    have hmod : num % den ≤ num' % den := by
      rw [heq] at hnum
      omega
    unfold roundDiv
    dsimp only
    rw [heq]
    split_ifs <;> omega
  · have hbelow := (roundDiv_bounds num den).2
    have habove := (roundDiv_bounds num' den).1
    omega

theorem roundDiv_of_dvd {num den : Nat} (hden : 0 < den) (h : den ∣ num) : roundDiv num den = num / den := by
  have hmod : num % den = 0 := Nat.mod_eq_zero_of_dvd h
  have hsmall : 2 * (num % den) < den := by omega
  unfold roundDiv
  dsimp only
  rw [if_pos hsmall]

/-! ## Binades -/

theorem two_pow_53 : (0x20000000000000 : Nat) = 2 ^ 53 := by norm_num

theorem two_pow_52 : (0x10000000000000 : Nat) = 2 ^ 52 := by norm_num

theorem div_binade_lt (q : Nat) : q / 2 ^ binade q < 2 ^ 53 := by
  unfold binade
  rw [two_pow_53]
  split
  · next hsmall => simpa using hsmall
  · next hlarge =>
    rw [Nat.div_lt_iff_lt_mul (Nat.two_pow_pos _), ← Nat.pow_add]
    have hlog : q < 2 ^ (q.log2 + 1) := Nat.lt_log2_self
    exact Nat.lt_of_lt_of_le hlog (Nat.pow_le_pow_right (by omega) (by omega))

/-- Above the least binade it keeps 53 bits. -/
theorem le_div_binade {q : Nat} (h : binade q ≠ 0) : 2 ^ 52 ≤ q / 2 ^ binade q := by
  unfold binade at h ⊢
  rw [two_pow_53] at h ⊢
  split
  · next hsmall => exact absurd (if_pos hsmall) h
  · next hlarge =>
    have hpos : q ≠ 0 := by
      rintro rfl
      exact hlarge (Nat.two_pow_pos 53)
    have hlog : 52 ≤ q.log2 := (Nat.le_log2 hpos).2 (by omega)
    rw [Nat.le_div_iff_mul_le (Nat.two_pow_pos _), ← Nat.pow_add, Nat.add_sub_cancel' hlog]
    exact Nat.log2_self_le hpos

theorem binade_mono {q q' : Nat} (h : q ≤ q') : binade q ≤ binade q' := by
  unfold binade
  rw [two_pow_53]
  split
  · exact Nat.zero_le _
  · next hlarge =>
    have hpos : q ≠ 0 := by
      rintro rfl
      exact hlarge (Nat.two_pow_pos 53)
    have hlarge' : ¬ q' < 2 ^ 53 := by omega
    rw [if_neg hlarge']
    have hlog : q.log2 ≤ q'.log2 := (Nat.le_log2 (by omega)).2 (Nat.le_trans (Nat.log2_self_le hpos) h)
    omega

theorem binade_le_of_lt {q n : Nat} (h : q < 2 ^ (53 + n)) : binade q ≤ n := by
  unfold binade
  rw [two_pow_53]
  split
  · exact Nat.zero_le _
  · next hlarge =>
    have hpos : q ≠ 0 := by
      rintro rfl
      exact hlarge (Nat.two_pow_pos 53)
    have hlog : q.log2 < 53 + n := (Nat.log2_lt hpos).2 h
    omega

/-! ## The nearest value -/

/-- The value of a double that is nearest to a number of units. -/
def nearest (q : Nat) : Nat := roundDiv q (2 ^ binade q) * 2 ^ binade q

/-- **Rounding keeps the order.** -/
theorem nearest_mono {q q' : Nat} (h : q ≤ q') : nearest q ≤ nearest q' := by
  unfold nearest
  rcases Nat.eq_or_lt_of_le (binade_mono h) with heq | hlt
  · rw [← heq]
    exact Nat.mul_le_mul_right _ (roundDiv_mono _ h)
  · -- The start of the higher binade lies between the two.
    have hbelow : roundDiv q (2 ^ binade q) ≤ 2 ^ 53 := by
      have hbound := (roundDiv_bounds q (2 ^ binade q)).2
      have hbits := div_binade_lt q
      omega
    have habove : 2 ^ 52 ≤ roundDiv q' (2 ^ binade q') :=
      Nat.le_trans (le_div_binade (by omega)) (roundDiv_bounds q' (2 ^ binade q')).1
    calc roundDiv q (2 ^ binade q) * 2 ^ binade q ≤ 2 ^ 53 * 2 ^ binade q := Nat.mul_le_mul_right _ hbelow
      _ = 2 ^ 52 * 2 ^ (binade q + 1) := by rw [← Nat.pow_add, ← Nat.pow_add]; congr 1; omega
      _ ≤ 2 ^ 52 * 2 ^ binade q' := Nat.mul_le_mul_left _ (Nat.pow_le_pow_right (by omega) hlt)
      _ ≤ roundDiv q' (2 ^ binade q') * 2 ^ binade q' := Nat.mul_le_mul_right _ habove

theorem nearest_of_dvd {q : Nat} (h : 2 ^ binade q ∣ q) : nearest q = q := by
  rw [nearest, roundDiv_of_dvd (Nat.two_pow_pos _) h, Nat.div_mul_cancel h]

/-- **What a double can hold is kept.** -/
theorem nearest_mul_two_pow {m : Nat} (hm : m < 2 ^ 53) (e : Nat) : nearest (m * 2 ^ e) = m * 2 ^ e := by
  refine nearest_of_dvd ?_
  have hbinade : binade (m * 2 ^ e) ≤ e := by
    refine binade_le_of_lt ?_
    rw [Nat.pow_add]
    exact Nat.mul_lt_mul_of_pos_right hm (Nat.two_pow_pos e)
  exact Nat.dvd_trans (Nat.pow_dvd_pow 2 hbinade) (Nat.dvd_mul_left _ _)

theorem nearest_zero : nearest 0 = 0 := by
  simpa using nearest_mul_two_pow (Nat.two_pow_pos 53) 0

theorem nearest_le_double (q : Nat) : nearest q ≤ 2 * q := by
  by_cases hleast : binade q = 0
  · have hkeep : nearest q = q := nearest_of_dvd (by rw [hleast, Nat.pow_zero]; exact Nat.one_dvd q)
    omega
  · have hone : 1 ≤ q / 2 ^ binade q := Nat.le_trans (Nat.one_le_two_pow) (le_div_binade hleast)
    have hpow : 2 ^ binade q ≤ q := by
      have hle := (Nat.le_div_iff_mul_le (Nat.two_pow_pos (binade q))).1 hone
      omega
    calc nearest q ≤ (q / 2 ^ binade q + 1) * 2 ^ binade q := Nat.mul_le_mul_right _ (roundDiv_bounds _ _).2
      _ = q / 2 ^ binade q * 2 ^ binade q + 2 ^ binade q := by rw [Nat.add_mul, Nat.one_mul]
      _ ≤ q + q := Nat.add_le_add (Nat.div_mul_le_self _ _) hpow
      _ = 2 * q := (Nat.two_mul q).symm

/-! ## Doubles -/

/-- What the rounding of doubles gives, where that is finite. -/
theorem exists_round? (neg : Bool) {q : Nat} (h : binade q < 2045) :
    ∃ x, round? neg q 1 = some x ∧ x.neg = neg ∧ x.magnitude = nearest q := by
  have hbound : roundDiv q (2 ^ binade q) ≤ 2 ^ 53 := by
    have hnext := (roundDiv_bounds q (2 ^ binade q)).2
    have hbits := div_binade_lt q
    omega
  have hnormal : binade q = 0 ∨ 2 ^ 52 ≤ roundDiv q (2 ^ binade q) := by
    by_cases hleast : binade q = 0
    · exact .inl hleast
    · exact .inr (Nat.le_trans (le_div_binade hleast) (roundDiv_bounds q (2 ^ binade q)).1)
  unfold round?
  dsimp only
  rw [Nat.div_one, Nat.shiftLeft_eq, Nat.one_mul]
  by_cases hcarry : roundDiv q (2 ^ binade q) = 0x20000000000000
  · -- The mantissa has one bit too many, so it is halved.
    rw [if_pos hcarry, ofFields?, dif_pos ⟨by norm_num, .inr (by norm_num), by omega⟩]
    refine ⟨_, rfl, rfl, ?_⟩
    show 0x10000000000000 <<< (binade q + 1) = nearest q
    rw [nearest, hcarry, Nat.shiftLeft_eq, Nat.pow_succ]
    omega
  · have hsmall : roundDiv q (2 ^ binade q) < 0x20000000000000 := by omega
    rw [if_neg hcarry, ofFields?, dif_pos ⟨hsmall, by rw [two_pow_52]; exact hnormal, by omega⟩]
    refine ⟨_, rfl, rfl, ?_⟩
    exact Nat.shiftLeft_eq ..

/-! ## Signs -/

/-- The value of a double that is nearest to a number of units with a sign. -/
def rounded (u : Int) : Int := if u < 0 then -(nearest u.natAbs : Int) else nearest u.natAbs

theorem natAbs_rounded (u : Int) : (rounded u).natAbs = nearest u.natAbs := by
  unfold rounded
  split
  · omega
  · omega

theorem rounded_mono {u u' : Int} (h : u ≤ u') : rounded u ≤ rounded u' := by
  unfold rounded
  split
  · split
    · have hle : nearest u'.natAbs ≤ nearest u.natAbs := nearest_mono (by omega)
      omega
    · omega
  · split
    · omega
    · have hle : nearest u.natAbs ≤ nearest u'.natAbs := nearest_mono (by omega)
      omega

theorem rounded_mul_two_pow {k : Int} (hk : k.natAbs < 2 ^ 53) (e : Nat) : rounded (k * 2 ^ e) = k * 2 ^ e := by
  have habs : (k * 2 ^ e).natAbs = k.natAbs * 2 ^ e := by
    rw [Int.natAbs_mul, Int.natAbs_pow]
    rfl
  have hkeep : nearest (k * 2 ^ e).natAbs = (k * 2 ^ e).natAbs := by
    rw [habs]
    exact nearest_mul_two_pow hk e
  unfold rounded
  rw [hkeep]
  split
  · omega
  · omega

theorem exists_round?_units {u : Int} (h : binade u.natAbs < 2045) :
    ∃ x, round? (u < 0) u.natAbs 1 = some x ∧ x.units = rounded u := by
  obtain ⟨x, hx, hneg, hmagnitude⟩ := exists_round? (decide (u < 0)) h
  refine ⟨x, hx, ?_⟩
  unfold units rounded
  rw [hneg, hmagnitude]
  simp only [decide_eq_true_eq]

end Schemata.Double
