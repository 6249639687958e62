import Schemata.Proofs.Example.Merged
import Schemata.Proofs.Example.Parts
import Schemata.Proofs.Number.Integer
import Schemata.Proofs.Validation.Violations

/-!
# Example integers

* `Bound.edge`, `Bound.rejectsBelow_integer_iff`, `Bound.rejectsAbove_integer_iff` : the integer where a bound begins;
* `Bound.edgeDouble`, `Bound.units_edgeDouble_of_isExact`, `Bound.units_edgeDouble_mono` : what an example takes for it;
* `Rules.Takes`, `Rules.takes_integer_iff` : a number meets the bounds of a node, and an integer does between the edges;
* `Rules.MovesExactly`, `Rules.exists_raised`, `Rules.exists_units_lowered` : where nothing is rounded on the way, 42 is
  moved no further than to the edges;
* `Node.toExample_integer` : the example of a node meets its bounds if a signed 64-bit integer does.
-/

namespace Schemata

/-! ## Edges of bounds -/

namespace Bound

/-- The first integer that a bound with this limit takes: the limit or, if that is excluded, the one that is a step
away. -/
def edge (b : Bound) (limit step : Int) : Int := if b.exclusive then limit + step else limit

/-- The limit is an integer. -/
def IsInteger (b : Bound) : Prop := ∃ limit h, b.limit = .integer limit h

/-- The limit is an integer that a double can hold, and so is the edge. -/
def IsExact (b : Bound) (step : Int) : Prop :=
  ∃ limit h, b.limit = .integer limit h ∧ Double.IsExact limit ∧ Double.IsExact (b.edge limit step)

variable {b : Bound} {limit i : Int} {hlimit : -0x8000000000000000 ≤ limit ∧ limit < 0x10000000000000000}
  {hi : -0x8000000000000000 ≤ i ∧ i < 0x10000000000000000}

theorem rejectsBelow_integer_iff (h : b.limit = .integer limit hlimit) :
    b.rejectsBelow (.integer i hi) = false ↔ b.edge limit 1 ≤ i := by
  rw [← Bool.not_eq_true, rejectsBelow_iff, h, Number.compare_integer, compare_lt_iff_lt, compare_eq_iff_eq]
  unfold edge
  cases b.exclusive with
  | true =>
    simp only [true_and, if_true]
    omega
  | false => simp

theorem rejectsAbove_integer_iff (h : b.limit = .integer limit hlimit) :
    b.rejectsAbove (.integer i hi) = false ↔ i ≤ b.edge limit (-1) := by
  rw [← Bool.not_eq_true, rejectsAbove_iff, h, Number.compare_integer, compare_gt_iff_gt, compare_eq_iff_eq]
  unfold edge
  cases b.exclusive with
  | true =>
    simp only [true_and, if_true]
    omega
  | false => simp

end Bound

/-! ## Edges of bounds as doubles -/

namespace Bound

open Double (one rounded rounded_mono rounded_mul_one)

variable {b : Bound} {limit step : Int} {hlimit : -0x8000000000000000 ≤ limit ∧ limit < 0x10000000000000000}

/-- What an example takes for the edge. -/
def edgeDouble (b : Bound) (limit step : Int) : Double :=
  if b.exclusive then (Double.ofInt limit).plus step else Double.ofInt limit

theorem leastInteger_eq (h : b.limit = .integer limit hlimit) : Rules.leastInteger b = b.edgeDouble limit 1 := by
  unfold Rules.leastInteger edgeDouble Number.toDouble
  rw [h]
  dsimp only
  rw [Double.floor_ofInt (by omega), Double.ceil_ofInt (by omega)]

theorem greatestInteger_eq (h : b.limit = .integer limit hlimit) :
    Rules.greatestInteger b = b.edgeDouble limit (-1) := by
  unfold Rules.greatestInteger edgeDouble Number.toDouble
  rw [h]
  dsimp only
  rw [Double.floor_ofInt (by omega), Double.ceil_ofInt (by omega)]

theorem units_edgeDouble (hlimit : limit.natAbs < 2 ^ 65) (hstep : step.natAbs ≤ 1) :
    (b.edgeDouble limit step).units =
      if b.exclusive then rounded (rounded (limit * one) + step * one) else rounded (limit * one) := by
  unfold edgeDouble
  split
  · exact Double.units_ofInt_plus hlimit hstep
  · exact Double.units_ofInt (by omega)

theorem units_edgeDouble_of_isExact (hlimit : limit.natAbs < 2 ^ 65) (hstep : step.natAbs ≤ 1)
    (hexact : Double.IsExact limit) (hedge : Double.IsExact (b.edge limit step)) :
    (b.edgeDouble limit step).units = b.edge limit step * one := by
  have hrounded := Double.rounded_of_isExact (by omega) hexact
  rw [units_edgeDouble hlimit hstep, hrounded]
  unfold edge at hedge ⊢
  split
  · next hexclusive =>
    rw [if_pos hexclusive] at hedge
    rw [← Int.add_mul]
    exact Double.rounded_of_isExact (by omega) hedge
  · rfl

theorem units_edgeDouble_mono {limit' : Int} (hlimit : limit.natAbs < 2 ^ 65) (hlimit' : limit'.natAbs < 2 ^ 65)
    (hstep : step.natAbs ≤ 1) (h : b.edge limit step ≤ b.edge limit' step) :
    (b.edgeDouble limit step).units ≤ (b.edgeDouble limit' step).units := by
  have hone : (0 : Int) ≤ one := Int.natCast_nonneg one
  rw [units_edgeDouble hlimit hstep, units_edgeDouble hlimit' hstep]
  unfold edge at h
  split
  · next hexclusive =>
    rw [if_pos hexclusive, if_pos hexclusive] at h
    have hlimits : rounded (limit * one) ≤ rounded (limit' * one) :=
      rounded_mono (Int.mul_le_mul_of_nonneg_right (by omega) hone)
    exact rounded_mono (by omega)
  · next hinclusive =>
    rw [if_neg hinclusive, if_neg hinclusive] at h
    exact rounded_mono (Int.mul_le_mul_of_nonneg_right h hone)

/-- Any small integer is the edge of some limit, and then nothing is rounded. -/
theorem exists_edge_eq (b : Bound) {m : Int} (hstep : step.natAbs ≤ 1) (hm : m.natAbs < 2 ^ 52) :
    ∃ limit, limit.natAbs < 2 ^ 65 ∧ b.edge limit step = m ∧ (b.edgeDouble limit step).units = m * one := by
  have hlimit : ∃ limit, limit.natAbs < 2 ^ 53 ∧ b.edge limit step = m := by
    unfold edge
    split
    · exact ⟨m - step, by omega, by omega⟩
    · exact ⟨m, by omega, rfl⟩
  obtain ⟨limit, hsmall, hedge⟩ := hlimit
  refine ⟨limit, by omega, hedge, ?_⟩
  have hexact : Double.IsExact (b.edge limit step) := by
    rw [hedge]
    exact Double.isExact_of_lt (by omega)
  rw [units_edgeDouble_of_isExact (by omega) hstep (Double.isExact_of_lt hsmall) hexact, hedge]

theorem units_edgeDouble_le {m : Int} (hlimit : limit.natAbs < 2 ^ 65) (hstep : step.natAbs ≤ 1)
    (hm : m.natAbs < 2 ^ 52) (h : b.edge limit step ≤ m) : (b.edgeDouble limit step).units ≤ m * one := by
  obtain ⟨limit', hlimit', rfl, hunits⟩ := b.exists_edge_eq hstep hm
  rw [← hunits]
  exact units_edgeDouble_mono hlimit hlimit' hstep h

theorem le_units_edgeDouble {m : Int} (hlimit : limit.natAbs < 2 ^ 65) (hstep : step.natAbs ≤ 1)
    (hm : m.natAbs < 2 ^ 52) (h : m ≤ b.edge limit step) : m * one ≤ (b.edgeDouble limit step).units := by
  obtain ⟨limit', hlimit', rfl, hunits⟩ := b.exists_edge_eq hstep hm
  rw [← hunits]
  exact units_edgeDouble_mono hlimit' hlimit hstep h

end Bound

/-! ## Integers between the bounds -/

namespace Rules

def Takes (rules : Rules) (n : Number) : Prop :=
  (∀ b, rules.minimum = some b → b.rejectsBelow n = false) ∧ ∀ b, rules.maximum = some b → b.rejectsAbove n = false

/-- The bounds have integers as their limits. -/
structure IntegerBounds (rules : Rules) : Prop where
  minimum : ∀ b, rules.minimum = some b → b.IsInteger
  maximum : ∀ b, rules.maximum = some b → b.IsInteger

/-- 42 can be moved to the bounds without rounding: doubles can hold the limit and the edge of a bound that 42 breaks
and, if that is the least one, those of a greatest bound whose limit is excluded. -/
structure MovesExactly (rules : Rules) : Prop where
  minimum : ∀ b, rules.minimum = some b → b.rejectsBelow (.ofNat 42) = true → b.IsExact 1
  maximum : ∀ b, rules.maximum = some b → b.rejectsAbove (.ofNat 42) = true → b.IsExact (-1)
  between : ∀ low high, rules.minimum = some low → rules.maximum = some high → low.rejectsBelow (.ofNat 42) = true →
    high.exclusive = true → high.IsExact (-1)

def AtLeast (rules : Rules) (i : Int) : Prop :=
  ∀ b limit h, rules.minimum = some b → b.limit = .integer limit h → b.edge limit 1 ≤ i

def AtMost (rules : Rules) (i : Int) : Prop :=
  ∀ b limit h, rules.maximum = some b → b.limit = .integer limit h → i ≤ b.edge limit (-1)

variable {rules : Rules} {i : Int}

section Edges

variable {b : Bound} {limit : Int} {hlimit : -0x8000000000000000 ≤ limit ∧ limit < 0x10000000000000000}

theorem atLeast_iff (hb : rules.minimum = some b) (hl : b.limit = .integer limit hlimit) :
    rules.AtLeast i ↔ b.edge limit 1 ≤ i := by
  constructor
  · intro hi
    exact hi b limit hlimit hb hl
  · intro hi other limit' hlimit' hother hl'
    obtain rfl := Option.some.inj (hb.symm.trans hother)
    obtain rfl := (Number.integer.inj (hl.symm.trans hl'))
    exact hi

theorem atMost_iff (hb : rules.maximum = some b) (hl : b.limit = .integer limit hlimit) :
    rules.AtMost i ↔ i ≤ b.edge limit (-1) := by
  constructor
  · intro hi
    exact hi b limit hlimit hb hl
  · intro hi other limit' hlimit' hother hl'
    obtain rfl := Option.some.inj (hb.symm.trans hother)
    obtain rfl := (Number.integer.inj (hl.symm.trans hl'))
    exact hi

theorem atLeast_of_none (hb : rules.minimum = none) : rules.AtLeast i := by
  intro b limit h hsome
  rw [hb] at hsome
  cases hsome

theorem atMost_of_none (hb : rules.maximum = none) : rules.AtMost i := by
  intro b limit h hsome
  rw [hb] at hsome
  cases hsome

end Edges

theorem takes_integer_iff (hbounds : rules.IntegerBounds) (h : -0x8000000000000000 ≤ i ∧ i < 0x10000000000000000) :
    rules.Takes (.integer i h) ↔ rules.AtLeast i ∧ rules.AtMost i := by
  constructor
  · rintro ⟨hmin, hmax⟩
    refine ⟨?_, ?_⟩
    · intro b limit hlimit hb hl
      exact (Bound.rejectsBelow_integer_iff hl).1 (hmin b hb)
    · intro b limit hlimit hb hl
      exact (Bound.rejectsAbove_integer_iff hl).1 (hmax b hb)
  · rintro ⟨hleast, hmost⟩
    refine ⟨?_, ?_⟩
    · intro b hb
      obtain ⟨limit, hlimit, hl⟩ := hbounds.minimum b hb
      exact (Bound.rejectsBelow_integer_iff hl).2 (hleast b limit hlimit hb hl)
    · intro b hb
      obtain ⟨limit, hlimit, hl⟩ := hbounds.maximum b hb
      exact (Bound.rejectsAbove_integer_iff hl).2 (hmost b limit hlimit hb hl)

/-! ## The example -/

open Double (one)

/-- 42, raised to the least bound. -/
def raised (rules : Rules) : Double :=
  match rules.minimum with
  | some b => (Double.ofNat 42).max (leastInteger b)
  | none => Double.ofNat 42

/-- 42, raised to the least bound and then lowered to the greatest one. -/
def lowered (rules : Rules) : Double :=
  match rules.maximum with
  | some b => rules.raised.min (greatestInteger b)
  | none => rules.raised

theorem units_42 : (Double.ofNat 42).units = 42 * one := Double.isExact_of_lt (n := 42) (by decide)

/-- The example is a signed 64-bit integer: what 42 becomes, moved to the range of those. -/
theorem exists_exampleInteger (rules : Rules) :
    ∃ r hr, rules.exampleInteger = .integer r hr ∧ r < 0x8000000000000000 ∧
      r = rules.lowered.toIntClamped (-0x8000000000000000) 0x7fffffffffffffff := by
  have hexample : rules.exampleInteger =
      .ofInt64 (rules.lowered.toIntClamped (-0x8000000000000000) 0x7fffffffffffffff) := rfl
  have hrange : -0x8000000000000000 ≤ rules.lowered.toIntClamped (-0x8000000000000000) 0x7fffffffffffffff ∧
      rules.lowered.toIntClamped (-0x8000000000000000) 0x7fffffffffffffff < 0x8000000000000000 := by
    unfold Double.toIntClamped
    split_ifs <;> omega
  rw [hexample, Number.ofInt64, dif_pos hrange]
  exact ⟨_, _, rfl, hrange.2, rfl⟩

theorem toIntClamped_of_units {x : Double} {w lo hi : Int} (h : x.units = w * one) (hlo : lo ≤ w) (hhi : w ≤ hi) :
    x.toIntClamped lo hi = w := by
  have htruncate : x.truncate = w := ((Double.units_eq_mul_one_iff _ _).1 h).2
  rw [Double.toIntClamped, htruncate, if_neg (by omega), if_neg (by omega)]

theorem AtLeast.mono {j : Int} (h : rules.AtLeast i) (hij : i ≤ j) : rules.AtLeast j := by
  intro b limit hlimit hb hl
  exact Int.le_trans (h b limit hlimit hb hl) hij

/-- 42 is below the least bound, and the integer is where that begins. -/
structure IsRaisedTo (rules : Rules) (v : Int) : Prop where
  below : ∃ low, rules.minimum = some low ∧ low.rejectsBelow (.ofNat 42) = true
  isExact : Double.IsExact v
  least : ∀ i, rules.AtLeast i → v ≤ i

theorem exists_raised (hbounds : rules.IntegerBounds) (hexact : rules.MovesExactly) :
    ∃ v : Int, rules.raised.units = v * one ∧ rules.AtLeast v ∧ 42 ≤ v ∧
      (v = 42 ∨ rules.IsRaisedTo v) := by
  unfold raised
  cases hmin : rules.minimum with
  | none => exact ⟨42, units_42, atLeast_of_none hmin, Int.le_refl 42, .inl rfl⟩
  | some b =>
    obtain ⟨limit, hlimit, hl⟩ := hbounds.minimum b hmin
    dsimp only
    rw [Bound.leastInteger_eq hl, Double.max, units_42]
    cases h42 : b.rejectsBelow (.ofNat 42) with
    | false =>
      have hedge : b.edge limit 1 ≤ 42 := (Bound.rejectsBelow_integer_iff hl).1 h42
      have hle := Bound.units_edgeDouble_le (by omega) (by decide) (by decide) hedge
      rw [if_neg (Int.not_lt.2 hle)]
      exact ⟨42, units_42, (atLeast_iff hmin hl).2 hedge, Int.le_refl 42, .inl rfl⟩
    | true =>
      obtain ⟨limit', hlimit', hl', hexactLimit, hexactEdge⟩ := hexact.minimum b hmin h42
      obtain rfl := Number.integer.inj (hl.symm.trans hl')
      have hunits := Bound.units_edgeDouble_of_isExact (by omega) (by decide) hexactLimit hexactEdge
      have hedge : 42 < b.edge limit 1 := by
        refine Int.not_le.1 fun hle => ?_
        have haccepts : b.rejectsBelow (.ofNat 42) = false := (Bound.rejectsBelow_integer_iff hl).2 hle
        exact Bool.false_ne_true (haccepts.symm.trans h42)
      have hone : (0 : Int) < one := Int.natCast_pos.2 Double.one_pos
      have hlt : 42 * (one : Int) < b.edge limit 1 * one := Int.mul_lt_mul_of_pos_right hedge hone
      rw [hunits, if_pos hlt]
      refine ⟨b.edge limit 1, hunits, (atLeast_iff hmin hl).2 (Int.le_refl _), by omega, .inr ⟨⟨b, hmin, h42⟩,
        hexactEdge, ?_⟩⟩
      intro i hi
      exact (atLeast_iff hmin hl).1 hi

/-- A greatest bound that takes 42 does not lower it further than to an integer between the bounds. -/
theorem le_units_greatestInteger (hexact : rules.MovesExactly) {b : Bound} {limit v : Int}
    {hlimit : -0x8000000000000000 ≤ limit ∧ limit < 0x10000000000000000} (hmax : rules.maximum = some b)
    (hl : b.limit = .integer limit hlimit) (h42 : 42 ≤ v) (hv : v ≤ b.edge limit (-1))
    (hraised : v = 42 ∨ rules.IsRaisedTo v) :
    v * one ≤ (b.edgeDouble limit (-1)).units := by
  rcases hraised with rfl | ⟨⟨low, hmin, hlow⟩, hexactValue, -⟩
  · exact Bound.le_units_edgeDouble (by omega) (by decide) (by decide) hv
  · have hone : (0 : Int) ≤ one := Int.natCast_nonneg one
    cases hexclusive : b.exclusive with
    | true =>
      obtain ⟨limit', hlimit', hl', hexactLimit, hexactEdge⟩ := hexact.between low b hmin hmax hlow hexclusive
      obtain rfl := Number.integer.inj (hl.symm.trans hl')
      rw [Bound.units_edgeDouble_of_isExact (by omega) (by decide) hexactLimit hexactEdge]
      exact Int.mul_le_mul_of_nonneg_right hv hone
    | false =>
      have hinclusive : ¬ b.exclusive = true := Bool.eq_false_iff.1 hexclusive
      rw [Bound.edge, if_neg hinclusive] at hv
      rw [Bound.units_edgeDouble (by omega) (by decide), if_neg hinclusive,
        ← Double.rounded_of_isExact (by omega) hexactValue]
      exact Double.rounded_mono (Int.mul_le_mul_of_nonneg_right hv hone)

theorem exists_units_lowered (hbounds : rules.IntegerBounds) (hexact : rules.MovesExactly) (hleast : rules.AtLeast i)
    (hmost : rules.AtMost i) (hi : -0x8000000000000000 ≤ i ∧ i < 0x8000000000000000) :
    ∃ w : Int, rules.lowered.units = w * one ∧ rules.AtLeast w ∧ rules.AtMost w ∧
      -0x8000000000000000 ≤ w ∧ w < 0x8000000000000000 := by
  obtain ⟨v, hv, hvLeast, hv42, hraised⟩ := exists_raised hbounds hexact
  have hvi : v = 42 ∨ v ≤ i := hraised.imp_right fun hraised => hraised.least i hleast
  unfold lowered
  cases hmax : rules.maximum with
  | none => exact ⟨v, hv, hvLeast, atMost_of_none hmax, by omega, by omega⟩
  | some b =>
    obtain ⟨limit, hlimit, hl⟩ := hbounds.maximum b hmax
    have hedge : i ≤ b.edge limit (-1) := (atMost_iff hmax hl).1 hmost
    dsimp only
    rw [Bound.greatestInteger_eq hl, Double.min, hv]
    cases h42 : b.rejectsAbove (.ofNat 42) with
    | false =>
      have h42 : 42 ≤ b.edge limit (-1) := (Bound.rejectsAbove_integer_iff hl).1 h42
      have hvEdge : v ≤ b.edge limit (-1) := by
        rcases hvi with rfl | hvi
        · exact h42
        · exact Int.le_trans hvi hedge
      have hle := le_units_greatestInteger hexact hmax hl hv42 hvEdge hraised
      rw [if_neg (Int.not_lt.2 hle)]
      exact ⟨v, hv, hvLeast, (atMost_iff hmax hl).2 hvEdge, by omega, by omega⟩
    | true =>
      obtain ⟨limit', hlimit', hl', hexactLimit, hexactEdge⟩ := hexact.maximum b hmax h42
      obtain rfl := Number.integer.inj (hl.symm.trans hl')
      have hunits := Bound.units_edgeDouble_of_isExact (by omega) (by decide) hexactLimit hexactEdge
      have hbelow : b.edge limit (-1) < 42 := by
        refine Int.not_le.1 fun hle => ?_
        have haccepts : b.rejectsAbove (.ofNat 42) = false := (Bound.rejectsAbove_integer_iff hl).2 hle
        exact Bool.false_ne_true (haccepts.symm.trans h42)
      have hone : (0 : Int) < one := Int.natCast_pos.2 Double.one_pos
      have hlt : b.edge limit (-1) * one < v * one := Int.mul_lt_mul_of_pos_right (by omega) hone
      rw [hunits, if_pos hlt]
      exact ⟨b.edge limit (-1), hunits, hleast.mono hedge, (atMost_iff hmax hl).2 (Int.le_refl _), by omega, by omega⟩

/-- **The example meets the bounds if a signed 64-bit integer does.** -/
theorem takes_exampleInteger_iff (hbounds : rules.IntegerBounds)
    (hexact : rules.MovesExactly) :
    rules.Takes rules.exampleInteger ↔ ∃ i h, i < 0x8000000000000000 ∧ rules.Takes (.integer i h) := by
  constructor
  · intro htakes
    obtain ⟨r, hr, hexample, hsigned, -⟩ := rules.exists_exampleInteger
    rw [hexample] at htakes
    exact ⟨r, hr, hsigned, htakes⟩
  · rintro ⟨i, hi, hsigned, htakes⟩
    obtain ⟨hleast, hmost⟩ := (takes_integer_iff hbounds hi).1 htakes
    obtain ⟨w, hw, hleast, hmost, hlower, hupper⟩ :=
      exists_units_lowered hbounds hexact hleast hmost ⟨hi.1, hsigned⟩
    obtain ⟨r, hr, hexample, -, hclamped⟩ := rules.exists_exampleInteger
    obtain rfl : r = w := hclamped.trans (toIntClamped_of_units hw hlower (by omega))
    rw [hexample]
    exact (takes_integer_iff hbounds hr).2 ⟨hleast, hmost⟩

end Rules

/-! ## Examples of nodes -/

namespace Node

open Rules

/-- **What the example of an integer meets.** Where 42 can be moved to the bounds of the node without rounding, the
example meets them just if some signed 64-bit integer does. -/
theorem toExample_integer {node : Node} (options : ExampleOptions) (ha : node.rules.allowed = none)
    (hall : node.HasNoAllOf) (hk : node.effectiveKind? = some .integer) (hbounds : node.rules.IntegerBounds)
    (hexact : node.rules.MovesExactly) :
    ∃ n, node.toExample options = .number n ∧
      (node.rules.Takes n ↔ ∃ i h, i < 0x8000000000000000 ∧ node.rules.Takes (.integer i h)) := by
  have hfree : node.rules.allowed.bind List.head? = none := by
    rw [ha]
    rfl
  refine ⟨node.rules.exampleInteger, ?_, takes_exampleInteger_iff hbounds hexact⟩
  rw [toExample, exampleAt_of_merged?_eq_none hfree (merged?_eq_none_iff.2 hall), exampleOfKind, hk]

/-- An integer node with the bounds `minimum` and, if there is one, `maximum`. -/
def integerNode (minimum : Bound) (maximum : Option Bound) : Node :=
  schema { kind := some .integer, minimum := some minimum, maximum := maximum } [] none .open []

theorem hasNoAllOf_integerNode (minimum : Bound) (maximum : Option Bound) :
    (integerNode minimum maximum).HasNoAllOf := by
  intro branches h
  cases h

/-- From 50 to 60, without the ends. -/
def fifties : Node := integerNode ⟨.ofNat 50, true⟩ (some ⟨.ofNat 60, true⟩)

theorem toExample_integer_fifties :
    fifties.rules.allowed = none ∧ fifties.HasNoAllOf ∧ fifties.effectiveKind? = some .integer ∧
      fifties.rules.IntegerBounds ∧ fifties.rules.MovesExactly ∧
      ∃ n, fifties.toExample {} = .number n ∧ fifties.rules.Takes n := by
  have hbounds : fifties.rules.IntegerBounds := by
    refine ⟨?_, ?_⟩
    · rintro b ⟨⟩
      exact ⟨50, by decide, rfl⟩
    · rintro b ⟨⟩
      exact ⟨60, by decide, rfl⟩
  have hminimum : Bound.IsExact ⟨.ofNat 50, true⟩ 1 :=
    ⟨50, by decide, rfl, Double.isExact_of_lt (by decide), Double.isExact_of_lt (by decide)⟩
  have hmaximum : Bound.IsExact ⟨.ofNat 60, true⟩ (-1) :=
    ⟨60, by decide, rfl, Double.isExact_of_lt (by decide), Double.isExact_of_lt (by decide)⟩
  have hexact : fifties.rules.MovesExactly := by
    refine ⟨?_, ?_, ?_⟩
    · rintro b ⟨⟩ -
      exact hminimum
    · rintro b ⟨⟩ -
      exact hmaximum
    · rintro low high ⟨⟩ ⟨⟩ - -
      exact hmaximum
  have hnone : fifties.HasNoAllOf := hasNoAllOf_integerNode _ _
  obtain ⟨n, hn, htakes⟩ := toExample_integer {} rfl hnone rfl hbounds hexact
  have h51 : fifties.rules.Takes (.integer 51 (by decide)) := by
    refine ⟨?_, ?_⟩
    · rintro b ⟨⟩
      decide
    · rintro b ⟨⟩
      decide
  exact ⟨rfl, hnone, rfl, hbounds, hexact, n, hn, htakes.2 ⟨51, by decide, by decide, h51⟩⟩

def fromSchema (least : Nat) : Json := .object [("type", .string "integer"), ("minimum", .ofNat least)]

def fromNode (least : Nat) : Node := integerNode ⟨.ofNat least, false⟩ none

theorem toExample_fromNode (least : Nat) :
    (fromNode least).toExample {} = .number (fromNode least).rules.exampleInteger := by
  have hnone : (fromNode least).merged? = none := merged?_eq_none_iff.2 (hasNoAllOf_integerNode _ _)
  rw [toExample, exampleAt_of_merged?_eq_none rfl hnone]
  rfl

theorem takes_fromNode_iff (least : Nat) (n : Number) :
    (fromNode least).rules.Takes n ↔ Bound.rejectsBelow ⟨.ofNat least, false⟩ n = false := by
  constructor
  · intro h
    exact h.1 _ rfl
  · intro h
    refine ⟨?_, ?_⟩
    · rintro b ⟨⟩
      exact h
    · rintro b ⟨⟩

/-- The first integer that is no double meets its bound, and its nearest double, which is the example, does not. -/
theorem not_takes_example_above_doubles :
    compile (fromSchema 0x20000000000001) = .ok (fromNode 0x20000000000001) ∧
      (fromNode 0x20000000000001).rules.allowed = none ∧ (fromNode 0x20000000000001).HasNoAllOf ∧
      (fromNode 0x20000000000001).effectiveKind? = some .integer ∧
      (fromNode 0x20000000000001).rules.IntegerBounds ∧
      (fromNode 0x20000000000001).rules.Takes (.ofNat 0x20000000000001) ∧
      (fromNode 0x20000000000001).toExample {} = .number (.ofNat 0x20000000000000) ∧
      ¬ (fromNode 0x20000000000001).rules.Takes (.ofNat 0x20000000000000) := by
  have hcompile : compile (fromSchema 0x20000000000001) = .ok (fromNode 0x20000000000001) := by rfl
  have hexample : (fromNode 0x20000000000001).rules.exampleInteger = .ofNat 0x20000000000000 := by decide +kernel
  have hbounds : (fromNode 0x20000000000001).rules.IntegerBounds := by
    refine ⟨?_, ?_⟩
    · rintro b ⟨⟩
      exact ⟨0x20000000000001, by decide, rfl⟩
    · rintro b ⟨⟩
  refine ⟨hcompile, rfl, hasNoAllOf_integerNode _ _, rfl, hbounds, ?_, ?_, ?_⟩
  · exact (takes_fromNode_iff _ _).2 (by decide)
  · rw [toExample_fromNode, hexample]
  · rw [takes_fromNode_iff]
    decide

end Node

end Schemata
