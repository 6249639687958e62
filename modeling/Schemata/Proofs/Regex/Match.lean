import Mathlib.Data.Nat.Bitwise
import Schemata.Regex.Match
import Schemata.Proofs.Regex.Language

/-!
# What the matcher finds

* `Expr.Spans` : an expression matches a text from one place to another, tests of places included;
* `Realises` : a function on sets of places follows a relation between places;
* `Expr.realises_plan` : the plan of an expression leads from a place to those its matches end at;
* `Expr.isMatch_iff` : a text matches if some part of it does;
* `Expr.spans_of_takes` : without tests, a part of a text matches that is one of the texts that the expression stands
  for.
-/

namespace Schemata.Regex

/-! ## Matches -/

/-- A number of steps. -/
def Rounds (step : Nat → Nat → Prop) : Nat → Nat → Nat → Prop
  | 0, i, j => i = j
  | n + 1, i, j => ∃ k, step i k ∧ Rounds step n k j

/-- The character before a place, `before` being the one before the text. -/
def charBefore (before : Option Char) (text : List Char) : Nat → Option Char
  | 0 => before
  | i + 1 => text[i]?

namespace Expr

mutual

/-- The expression matches the text from the place `i` to the place `j`. -/
def Spans (text : List Char) : Expr → Nat → Nat → Prop
  | empty, i, j => i = j
  | literal chars, i, j => chars <+: text.drop i ∧ j = i + chars.length
  | charClass _ set, i, j => (∃ c, text[i]? = some c ∧ set.contains c) ∧ j = i + 1
  | look kind, i, j => (i ≤ text.length ∧ kind.holds (charBefore none text i) text[i]?) ∧ i = j
  | repetition min max _ body, i, j =>
    ∃ n, min ≤ n ∧ (∀ most ∈ max, n = min ∨ n ≤ most) ∧ Rounds (Spans text body) n i j
  | capture _ body, i, j => Spans text body i j
  | concat parts, i, j => SpansAll text parts i j
  | alternation branches, i, j => SpansAny text branches i j

def SpansAll (text : List Char) : List Expr → Nat → Nat → Prop
  | [], i, j => i = j
  | e :: rest, i, j => ∃ k, Spans text e i k ∧ SpansAll text rest k j

def SpansAny (text : List Char) : List Expr → Nat → Nat → Prop
  | [], _, _ => False
  | e :: rest, i, j => Spans text e i j ∨ SpansAny text rest i j

end

theorem spansAll_append {text : List Char} {front back : List Expr} {i j : Nat} :
    SpansAll text (front ++ back) i j ↔ ∃ k, SpansAll text front i k ∧ SpansAll text back k j := by
  induction front generalizing i with
  | nil => simp [SpansAll]
  | cons e rest ih =>
    simp only [List.cons_append, SpansAll, ih]
    grind

end Expr

theorem rounds_add {step : Nat → Nat → Prop} {m n i j : Nat} :
    Rounds step (m + n) i j ↔ ∃ k, Rounds step m i k ∧ Rounds step n k j := by
  induction m generalizing i with
  | zero => simp [Rounds]
  | succ m ih =>
    rw [Nat.succ_add]
    simp only [Rounds, ih]
    grind

theorem Rounds.mono {step step' : Nat → Nat → Prop} (h : ∀ i j, step i j → step' i j) {n i j : Nat}
    (rounds : Rounds step n i j) : Rounds step' n i j := by
  induction n generalizing i with
  | zero => exact rounds
  | succ n ih =>
    obtain ⟨k, first, rest⟩ := rounds
    exact ⟨k, h i k first, ih rest⟩

/-! ## Places -/

theorem testBit_zero_bit (n : Nat) (b : Bool) : (2 * n + b.toNat).testBit 0 = b := by
  cases b <;> simp [Nat.testBit_zero]

theorem testBit_succ_bit (n : Nat) (b : Bool) (i : Nat) : (2 * n + b.toNat).testBit (i + 1) = n.testBit i := by
  have := b.toNat_le
  rw [Nat.testBit_succ, show (2 * n + b.toNat) / 2 = n by omega]

theorem testBit_placesBefore (test : Char → Bool) (text : List Char) (i : Nat) :
    (placesBefore test text).testBit i = text[i]?.any test := by
  induction text generalizing i with
  | nil => simp [placesBefore]
  | cons c rest ih =>
    rw [placesBefore]
    cases i with
    | zero => rw [testBit_zero_bit, List.getElem?_cons_zero, Option.any_some]
    | succ i => rw [testBit_succ_bit, ih, List.getElem?_cons_succ]

theorem testBit_placesBetween (test : Option Char → Option Char → Bool) (before : Option Char) (text : List Char)
    (i : Nat) : (placesBetween test before text).testBit i = true ↔
      i ≤ text.length ∧ test (charBefore before text i) text[i]? = true := by
  induction text generalizing before i with
  | nil =>
    rw [placesBetween, show (test before none).toNat = 2 * 0 + (test before none).toNat by omega]
    cases i with
    | zero => rw [testBit_zero_bit]; simp [charBefore]
    | succ i => rw [testBit_succ_bit]; simp
  | cons c rest ih =>
    rw [placesBetween]
    cases i with
    | zero => rw [testBit_zero_bit]; simp [charBefore]
    | succ i => rw [testBit_succ_bit, ih]; cases i <;> simp [charBefore]

/-! ## Steps on sets of places -/

/-- A function on sets of places leads to the places that the relation leads to. -/
def Realises (run : Nat → Nat) (step : Nat → Nat → Prop) : Prop :=
  ∀ set j, (run set).testBit j = true ↔ ∃ i, set.testBit i = true ∧ step i j

namespace Realises

variable {run run' : Nat → Nat} {step step' : Nat → Nat → Prop}

theorem congr (h : Realises run step) (same : ∀ i j, step i j ↔ step' i j) : Realises run step' := by
  simpa only [Realises, same] using h

theorem stay : Realises id Eq := fun set j => by simp

theorem comp (h : Realises run step) (h' : Realises run' step') :
    Realises (run' ∘ run) fun i j => ∃ k, step i k ∧ step' k j := by
  intro set j
  simp only [Function.comp_apply, h' _ j, h set]
  grind

theorem union (h : Realises run step) (h' : Realises run' step') :
    Realises (fun set => run set ||| run' set) fun i j => step i j ∨ step' i j := by
  intro set j
  simp only [Nat.testBit_or, Bool.or_eq_true, h set, h' set]
  grind

theorem keep {places : Nat} : Realises (Plan.keep places).run fun i j => places.testBit i = true ∧ i = j := by
  intro set j
  simp only [Plan.run, Nat.testBit_and, Bool.and_eq_true]
  grind

theorem consume {places : Nat} :
    Realises (Plan.consume places).run fun i j => places.testBit i = true ∧ j = i + 1 := by
  intro set j
  simp only [Plan.run, Nat.testBit_shiftLeft, Nat.testBit_and, Bool.and_eq_true, decide_eq_true_eq]
  constructor
  · rintro ⟨positive, inSet, inPlaces⟩
    exact ⟨j - 1, inSet, inPlaces, by omega⟩
  · rintro ⟨i, inSet, inPlaces, rfl⟩
    exact ⟨by omega, inSet, inPlaces⟩

theorem times (h : Realises run step) (n : Nat) : Realises (Plan.times run n) (Rounds step n) := by
  induction n with
  | zero => exact stay
  | succ n ih =>
    intro set j
    rw [Plan.times]
    split
    next zero => simp [zero]
    next => exact (h.comp ih) set j

/-- Once a step adds no place, no number of steps does. -/
theorem closed (h : Realises run step) {set : Nat} (all : set ||| run set = set) {k i j : Nat}
    (rounds : Rounds step k i j) (mem : set.testBit i = true) : set.testBit j = true := by
  induction k generalizing i with
  | zero => exact rounds ▸ mem
  | succ k ih =>
    obtain ⟨mid, first, rest⟩ := rounds
    refine ih rest ?_
    rw [← all, Nat.testBit_or, (h set mid).2 ⟨i, mem, first⟩, Bool.or_true]

theorem grow (h : Realises run step) (n : Nat) :
    Realises (Plan.grow run n) fun i j => ∃ k ≤ n, Rounds step k i j := by
  induction n with
  | zero => exact stay.congr fun i j => by simp [Rounds]
  | succ n ih =>
    intro set j
    rw [Plan.grow]
    split
    next all =>
      constructor
      · exact fun mem => ⟨j, mem, 0, by omega, rfl⟩
      · rintro ⟨i, mem, k, -, rounds⟩
        exact h.closed all rounds mem
    next =>
      refine ((stay.union h).comp ih set j).trans (exists_congr fun i => and_congr_right fun _ => ?_)
      constructor
      · rintro ⟨mid, rfl | first, k, le, rest⟩
        · exact ⟨k, by omega, rest⟩
        · exact ⟨k + 1, by omega, mid, first, rest⟩
      · rintro ⟨_ | k, le, rounds⟩
        · exact ⟨i, .inl rfl, 0, by omega, rounds⟩
        · obtain ⟨mid, first, rest⟩ := rounds
          exact ⟨mid, .inr first, k, by omega, rest⟩

end Realises

/-! ## Rounds that add something -/

/-- A step that goes forward, and within the text where it takes characters. -/
def Advances (length : Nat) (step : Nat → Nat → Prop) : Prop :=
  ∀ i j, step i j → i = j ∨ i < j ∧ j ≤ length

theorem Advances.rounds {length : Nat} {step : Nat → Nat → Prop} (h : Advances length step) (n : Nat) :
    Advances length (Rounds step n) := by
  induction n with
  | zero => exact fun i j same => .inl same
  | succ n ih =>
    rintro i j ⟨k, first, rest⟩
    have := h i k first
    have := ih k j rest
    omega

/-- Rounds that take no character can be left out; each other one takes at least one. -/
theorem Advances.exists_rounds_le {length : Nat} {step : Nat → Nat → Prop} (h : Advances length step) {n i j : Nat}
    (rounds : Rounds step n i j) : ∃ k ≤ length, Rounds step k i j := by
  suffices ∃ k ≤ j - i, Rounds step k i j by
    obtain ⟨k, le, fewer⟩ := this
    have := h.rounds n i j rounds
    exact ⟨k, by omega, fewer⟩
  induction n generalizing i with
  | zero => exact ⟨0, by omega, rounds⟩
  | succ n ih =>
    obtain ⟨mid, first, rest⟩ := rounds
    obtain ⟨k, le, fewer⟩ := ih rest
    have := h.rounds n mid j rest
    obtain rfl | ⟨forward, -⟩ := h i mid first
    · exact ⟨k, le, fewer⟩
    · exact ⟨k + 1, by omega, mid, first, fewer⟩

namespace Expr

variable {text : List Char}

mutual

theorem advances_spans : ∀ e : Expr, Advances text.length (e.Spans text)
  | empty => fun i j same => .inl same
  | literal chars => by
    rintro i j ⟨isPrefix, rfl⟩
    have := isPrefix.length_le
    rw [List.length_drop] at this
    omega
  | charClass bytes set => by
    rintro i j ⟨⟨c, at_, -⟩, rfl⟩
    have := (List.getElem?_eq_some_iff.1 at_).1
    omega
  | look kind => fun i j h => .inl h.2
  | repetition min max greedy body => fun i j ⟨n, _, _, rounds⟩ => (advances_spans body).rounds n i j rounds
  | capture index body => advances_spans body
  | concat parts => advances_spansAll parts
  | alternation branches => advances_spansAny branches

theorem advances_spansAll : ∀ parts : List Expr, Advances text.length (SpansAll text parts)
  | [] => fun i j same => .inl same
  | e :: rest => by
    rintro i j ⟨k, first, others⟩
    have := advances_spans e i k first
    have := advances_spansAll rest k j others
    omega

theorem advances_spansAny : ∀ branches : List Expr, Advances text.length (SpansAny text branches)
  | [] => fun _ _ h => h.elim
  | e :: rest => fun i j h => h.elim (advances_spans e i j) (advances_spansAny rest i j)

end

/-! ## Plans -/

theorem cons_prefix_drop {c : Char} {rest : List Char} {i : Nat} :
    c :: rest <+: text.drop i ↔ text[i]? = some c ∧ rest <+: text.drop (i + 1) := by
  rw [← List.drop_drop, ← List.head?_drop]
  cases text.drop i with
  | nil => simp
  | cons d tail => simp [List.cons_prefix_cons, eq_comm]

theorem realises_literal (chars : List Char) :
    Realises (Plan.runAll (chars.map fun c => .consume (placesBefore (· == c) text)))
      ((literal chars).Spans text) := by
  induction chars with
  | nil => exact Realises.stay.congr fun i j => by simp [Spans, eq_comm]
  | cons c rest ih =>
    refine (Realises.consume.comp ih).congr fun i j => ?_
    simp only [testBit_placesBefore, Spans, List.length_cons, cons_prefix_drop, Option.any_eq_true, beq_iff_eq,
      exists_eq_right]
    constructor
    · rintro ⟨_, ⟨first, rfl⟩, others, rfl⟩
      exact ⟨⟨first, others⟩, by omega⟩
    · rintro ⟨⟨first, others⟩, rfl⟩
      exact ⟨i + 1, ⟨first, rfl⟩, others, by omega⟩

/-- Rounds beyond the number of places lead nowhere new. -/
theorem realises_loop {body : Expr} (h : Realises (body.plan text).run (body.Spans text)) (min : Nat)
    (max : Option Nat) (greedy : Bool) :
    Realises (((repetition min max greedy body).plan text).run) ((repetition min max greedy body).Spans text) := by
  refine ((h.times min).comp (h.grow _)).congr fun i j => ?_
  rw [Spans]
  constructor
  · rintro ⟨mid, least, k, le, more⟩
    refine ⟨min + k, by omega, ?_, rounds_add.2 ⟨mid, least, more⟩⟩
    rintro most rfl
    simp only [Option.map_some, Option.getD_some] at le
    omega
  · rintro ⟨n, le, bound, rounds⟩
    obtain ⟨k, rfl⟩ := Nat.exists_eq_add_of_le le
    obtain ⟨mid, least, more⟩ := rounds_add.1 rounds
    cases max with
    | none =>
      obtain ⟨k, le, fewer⟩ := (advances_spans body).exists_rounds_le more
      exact ⟨mid, least, k, by simpa using le.trans (Nat.le_succ _), fewer⟩
    | some most =>
      have := bound most rfl
      exact ⟨mid, least, k, by rw [Option.map_some, Option.getD_some]; omega, more⟩

mutual

/-- **The plan of an expression** leads from each place to those where its matches from there end. -/
theorem realises_plan : ∀ e : Expr, Realises (e.plan text).run (e.Spans text)
  | empty => Realises.stay
  | literal chars => realises_literal chars
  | charClass _ set => Realises.consume.congr fun i j => by
    simp [testBit_placesBefore, Spans, Option.any_eq_true]
  | look kind => Realises.keep.congr fun i j => by rw [testBit_placesBetween, Spans]
  | repetition min max greedy body => realises_loop (realises_plan body) min max greedy
  | capture _ body => realises_plan body
  | concat parts => realises_plans parts
  | alternation branches => realises_choices branches

theorem realises_plans : ∀ parts : List Expr, Realises (Plan.runAll (listPlan text parts)) (SpansAll text parts)
  | [] => Realises.stay
  | e :: rest => (realises_plan e).comp (realises_plans rest)

theorem realises_choices : ∀ branches : List Expr,
    Realises (Plan.runAny (listPlan text branches)) (SpansAny text branches)
  | [] => fun set j => by simp [listPlan, Plan.runAny, SpansAny]
  | e :: rest => (realises_plan e).union (realises_choices rest)

end

theorem isMatch_iff (e : Expr) (text : String) :
    e.isMatch text = true ↔ ∃ i ≤ text.length, ∃ j, e.Spans text.toList i j := by
  rw [isMatch, bne_iff_ne]
  constructor
  · intro nonzero
    obtain ⟨j, bit⟩ := Nat.exists_testBit_of_ne_zero nonzero
    obtain ⟨i, mem, spans⟩ := (realises_plan e _ j).1 bit
    rw [Nat.one_shiftLeft, Nat.testBit_two_pow_sub_one, decide_eq_true_eq] at mem
    exact ⟨i, Nat.le_of_lt_succ mem, j, spans⟩
  · rintro ⟨i, le, j, spans⟩ zero
    have bit := (realises_plan e (1 <<< (text.length + 1) - 1) j).2 ⟨i, by
      rw [Nat.one_shiftLeft, Nat.testBit_two_pow_sub_one, decide_eq_true_eq]
      exact Nat.lt_succ_of_le le, spans⟩
    rw [zero, Nat.zero_testBit] at bit
    exact absurd bit nofun

/-! ## Texts that the expression stands for -/

/-- A step takes one of the texts of a language. -/
def Takes (text : List Char) (L : Language Char) (i j : Nat) : Prop :=
  ∃ taken ∈ L, taken <+: text.drop i ∧ j = i + taken.length

theorem append_prefix_drop_iff {front back : List Char} {i : Nat} :
    front ++ back <+: text.drop i ↔ front <+: text.drop i ∧ back <+: text.drop (i + front.length) := by
  constructor
  · rintro ⟨rest, eq⟩
    refine ⟨⟨back ++ rest, by rw [← eq, List.append_assoc]⟩, rest, ?_⟩
    rw [← List.drop_drop, ← eq, List.append_assoc, List.drop_left]
  · rintro ⟨⟨rest, eq⟩, rest', eq'⟩
    rw [← List.drop_drop, ← eq, List.drop_left] at eq'
    exact ⟨rest', by rw [← eq, ← eq', List.append_assoc]⟩

theorem takes_one {i j : Nat} : Takes text 1 i j ↔ i = j := by
  simp [Takes, eq_comm]

theorem takes_mul {L M : Language Char} {i j : Nat} :
    Takes text (L * M) i j ↔ ∃ k, Takes text L i k ∧ Takes text M k j := by
  constructor
  · rintro ⟨_, ⟨front, memFront, back, memBack, rfl⟩, here, rfl⟩
    obtain ⟨hereFront, hereBack⟩ := append_prefix_drop_iff.1 here
    exact ⟨_, ⟨front, memFront, hereFront, rfl⟩, back, memBack, hereBack, by simp [Nat.add_assoc]⟩
  · rintro ⟨_, ⟨front, memFront, hereFront, rfl⟩, back, memBack, hereBack, rfl⟩
    exact ⟨front ++ back, Language.append_mem_mul memFront memBack, append_prefix_drop_iff.2 ⟨hereFront, hereBack⟩,
      by simp [Nat.add_assoc]⟩

theorem takes_pow {L : Language Char} {n i j : Nat} : Takes text (L ^ n) i j ↔ Rounds (Takes text L) n i j := by
  induction n generalizing i with
  | zero => rw [pow_zero, takes_one, Rounds]
  | succ n ih => simp only [pow_succ', takes_mul, Rounds, ih]

theorem takes_add {L M : Language Char} {i j : Nat} : Takes text (L + M) i j ↔ Takes text L i j ∨ Takes text M i j := by
  simp only [Takes, Language.mem_add, or_and_right, exists_or]

theorem takes_repetition {min : Nat} {max : Option Nat} {greedy : Bool} {body : Expr} {i j : Nat} :
    Takes text (repetition min max greedy body).language i j ↔
      ∃ n, min ≤ n ∧ (∀ most ∈ max, n = min ∨ n ≤ most) ∧ Rounds (Takes text body.language) n i j := by
  simp only [← takes_pow, Takes, mem_language_repetition]
  grind

theorem takes_charClass {bytes : Bool} {set : CharSet} {i j : Nat} :
    Takes text (charClass bytes set).language i j ↔
      (∃ c, text[i]? = some c ∧ set.contains c = true ∧ (bytes → c.toNat < 128)) ∧ j = i + 1 := by
  simp only [Takes, mem_language_charClass]
  constructor
  · rintro ⟨_, ⟨c, rfl, mem⟩, here, rfl⟩
    exact ⟨⟨c, (cons_prefix_drop.1 here).1, mem⟩, rfl⟩
  · rintro ⟨⟨c, at_, mem⟩, rfl⟩
    exact ⟨[c], ⟨c, rfl, mem⟩, cons_prefix_drop.2 ⟨at_, List.nil_prefix⟩, rfl⟩

mutual

/-- An expression without tests matches each text that it stands for, wherever that is. -/
theorem spans_of_takes : ∀ (e : Expr), e.isLookFree = true → ∀ i j, Takes text e.language i j → e.Spans text i j
  | empty, _, _, _, h => takes_one.1 h
  | literal _, _, _, _, ⟨_, rfl, here⟩ => here
  | charClass _ _, _, _, _, h =>
    have ⟨⟨c, at_, mem⟩, next⟩ := takes_charClass.1 h
    ⟨⟨c, at_, mem.1⟩, next⟩
  | look _, free, _, _, _ => absurd free nofun
  | repetition _ _ _ body, free, _, _, h =>
    have ⟨n, least, greatest, rounds⟩ := takes_repetition.1 h
    ⟨n, least, greatest, rounds.mono (spans_of_takes body free)⟩
  | capture _ body, free, i, j, h => spans_of_takes body free i j h
  | concat parts, free, i, j, h => spansAll_of_takes parts (listLeaves_eq_true.1 free) i j h
  | alternation branches, free, i, j, h => spansAny_of_takes branches (listLeaves_eq_true.1 free) i j h

theorem spansAll_of_takes : ∀ (parts : List Expr), (∀ e ∈ parts, e.isLookFree = true) → ∀ i j,
    Takes text (listProduct parts) i j → SpansAll text parts i j
  | [], _, _, _, h => takes_one.1 h
  | e :: rest, free, i, j, h =>
    have ⟨freeFirst, freeRest⟩ := List.forall_mem_cons.1 free
    have ⟨k, first, others⟩ := takes_mul.1 h
    ⟨k, spans_of_takes e freeFirst i k first, spansAll_of_takes rest freeRest k j others⟩

theorem spansAny_of_takes : ∀ (branches : List Expr), (∀ e ∈ branches, e.isLookFree = true) → ∀ i j,
    Takes text (listSum branches) i j → SpansAny text branches i j
  | [], _, _, _, ⟨_, mem, _⟩ => mem.elim
  | e :: rest, free, i, j, h =>
    have ⟨freeFirst, freeRest⟩ := List.forall_mem_cons.1 free
    (takes_add.1 h).imp (spans_of_takes e freeFirst i j) (spansAny_of_takes rest freeRest i j)

end

end Expr

end Schemata.Regex
