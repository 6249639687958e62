import Schemata.Proofs.Json.Equality
import Schemata.Proofs.Validation.Violations

/-!
# Allowed values

* `Json.Respells` : a value is left as it is, or written in another way in which no number blurs;
* `Json.Respells.equal_iff` : two values are equal if and only if they are in other spellings;
* `Rules.checkAllowed_eq_nil_of_respells` : a list of values allows a value if and only if it does so in other
  spellings;
* `Json.equal_laws` : equality is reflexive and symmetric, it passes through a value if and only if no number in it
  blurs, only doubles from `2^53` on do, and without them an `enum` does not see how a value is written.
-/

namespace Schemata

namespace Json

/-- The value itself, or an equal one, where no number of the two blurs. -/
inductive Respells : Json → Json → Prop
  | refl (a) : Respells a a
  | equal {a b} (ha : a.hasDistinctNames = true) (hb : b.hasDistinctNames = true) (sharp : a.IsSharp)
      (sharp' : b.IsSharp) (h : a.equal b = true) : Respells a b

variable {a b c d : Json}

theorem Respells.symm (h : a.Respells b) : b.Respells a := by
  cases h with
  | refl => exact .refl a
  | equal ha hb sharp sharp' h => exact .equal hb ha sharp' sharp (equal_comm ha hb ▸ h)

theorem Respells.equal_of_equal (hab : a.Respells b) (hcd : c.Respells d) (h : a.equal c = true) :
    b.equal d = true := by
  have hleft : b.equal c = true := by
    cases hab with
    | refl => exact h
    | equal ha hb sharp _ hab => exact equal_trans sharp (equal_comm ha hb ▸ hab) h
  cases hcd with
  | refl => exact hleft
  | equal _ _ sharp _ hcd => exact equal_trans sharp hleft hcd

theorem Respells.equal_iff (hab : a.Respells b) (hcd : c.Respells d) : a.equal c = true ↔ b.equal d = true :=
  ⟨hab.equal_of_equal hcd, hab.symm.equal_of_equal hcd.symm⟩

end Json

namespace Rules

variable {rules rules' : Rules} {path path' : FieldPath} {a b : Json} {values values' : List Json}

theorem checkAllowed_eq_nil_iff (h : rules.allowed = some values) :
    rules.checkAllowed path a = [] ↔ ∃ candidate ∈ values, candidate.equal a = true := by
  rw [checkAllowed, keyword_eq_nil_iff, h]
  simp only [Option.mem_def, Option.some.injEq, forall_eq', List.any_eq_true]

theorem checkAllowed_eq_nil_of_respells (h : rules.allowed = some values) (h' : rules'.allowed = some values')
    (hvalues : List.Forall₂ Json.Respells values values') (hab : a.Respells b) :
    rules.checkAllowed path a = [] ↔ rules'.checkAllowed path' b = [] := by
  rw [checkAllowed_eq_nil_iff h, checkAllowed_eq_nil_iff h']
  clear h h'
  induction hvalues with
  | nil => simp only [List.not_mem_nil, false_and, exists_false]
  | cons hspelled _ ih => rw [List.exists_mem_cons_iff, List.exists_mem_cons_iff, hspelled.equal_iff hab, ih]

end Rules

namespace Json

/-- **Equality of values is reflexive and symmetric, and below `2^53` transitive.** It passes through a value if and only
if no number in it is a double that is the nearest one to several integers, and such doubles begin at `2^53`. Without
them, an `enum` does not see which of several equal spellings of a number the schema and the value use. -/
theorem equal_laws {a b : Json} (ha : a.hasDistinctNames = true) (hb : b.hasDistinctNames = true) :
    a.equal a = true ∧ a.equal b = b.equal a ∧
      ((∀ x z : Json, x.hasDistinctNames = true → z.hasDistinctNames = true → x.equal b = true → b.equal z = true →
        x.equal z = true) ↔ b.IsSharp) ∧
      ((∀ n ∈ b.numbers, n.isInteger = true ∨ n.toDouble.units.natAbs < 2 ^ 53 * Double.one) → b.IsSharp) ∧
      ∀ (rules rules' : Rules) (path path' : FieldPath) (values values' : List Json),
        rules.allowed = some values → rules'.allowed = some values' → List.Forall₂ Respells values values' →
        a.Respells b → (rules.checkAllowed path a = [] ↔ rules'.checkAllowed path' b = []) := by
  refine ⟨equal_self ha, equal_comm ha hb, equal_trans_iff hb, fun hsmall n hn => ?_, ?_⟩
  · rcases hsmall n hn with hinteger | hsmall
    · exact fun hblurs => nomatch hblurs.1.symm.trans hinteger
    · exact Number.not_blurs_of_lt hsmall
  · intro rules rules' path path' values values' h h' hvalues hab
    exact Rules.checkAllowed_eq_nil_of_respells h h' hvalues hab

/-- An enum and a value that is `1` and `1.0`, in both spellings, below members in both orders. -/
theorem equal_laws_one :
    let value (n : Number) : Json := .object [("id", .number n), ("tags", .array [])]
    let swapped (n : Number) : Json := .object [("tags", .array []), ("id", .number n)]
    let integer : Number := .ofNat 1
    let double : Number := .double (.ofInt 1)
    (value integer).equal (value integer) = true ∧
      (value integer).equal (swapped double) = (swapped double).equal (value integer) ∧
      ((value integer).equal (swapped double) = true → (swapped double).equal (swapped integer) = true →
        (value integer).equal (swapped integer) = true) ∧
      ∀ path : FieldPath, ({ allowed := some [value double] } : Rules).checkAllowed path (value integer) = [] ↔
        ({ allowed := some [swapped integer] } : Rules).checkAllowed path (swapped double) = [] := by
  intro value swapped integer double
  obtain ⟨hrefl, hsymm, htrans, hsharp, henum⟩ := equal_laws (a := value integer) (b := swapped double) rfl rfl
  have hinteger : ¬ integer.Blurs := fun hblurs => nomatch hblurs.1
  have hdouble : (swapped double).IsSharp := hsharp (List.forall_mem_singleton.2 (.inr (by decide +kernel)))
  have hlist : (value double).Respells (swapped integer) :=
    .equal rfl rfl hdouble (List.forall_mem_singleton.2 hinteger) (by decide +kernel)
  have hpayload : (value integer).Respells (swapped double) :=
    .equal rfl rfl (List.forall_mem_singleton.2 hinteger) hdouble (by decide +kernel)
  refine ⟨hrefl, hsymm, htrans.2 hdouble _ _ rfl rfl, fun path => ?_⟩
  exact henum _ _ path path _ _ rfl rfl (.cons hlist .nil) hpayload

/-- Two integers are equal to the double `2^53`, and not to each other. -/
theorem not_equal_trans_at_two_pow_53 :
    ¬ ∀ a b c : Json, a.hasDistinctNames = true → b.hasDistinctNames = true → c.hasDistinctNames = true →
      a.equal b = true → b.equal c = true → a.equal c = true := by
  intro htrans
  have hends := htrans (.ofNat 9007199254740993) (.number (.double (.ofInt 9007199254740992)))
    (.ofNat 9007199254740992) rfl rfl rfl (by decide +kernel) (by decide +kernel)
  exact absurd hends (by decide)

end Json

end Schemata
