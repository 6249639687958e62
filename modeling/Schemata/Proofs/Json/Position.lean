import Mathlib.Data.List.Induction
import Schemata.Proofs.Json.Pointer

/-!
# A position has one written form

* `Text.toDigits_digitsValue` : digits without a leading zero are those of their value;
* `Text.exists_zeros` : others have zeros before them, and these do not count (`Text.digitsValue_zeros`);
* `Pointer.position?_eq_some_iff`, `Pointer.index?_eq_some_iff` : a token is read as a position if and only if it
  is the written form of that position.
-/

namespace Schemata

/-! ## Digits -/

namespace Text

theorem digitsValue_concat (digits : List Char) (c : Char) :
    digitsValue (digits ++ [c]) = 10 * digitsValue digits + (c.toNat - 48) := by
  simp [digitsValue]

theorem toNat_of_isDigit {c : Char} (h : c.isDigit = true) : 48 ≤ c.toNat ∧ c.toNat ≤ 57 := by
  have hc : 48 ≤ c.val ∧ c.val ≤ 57 := by simpa [Char.isDigit] using h
  exact hc

theorem digitChar_of_isDigit {c : Char} (h : c.isDigit = true) : Nat.digitChar (c.toNat - 48) = c := by
  have hc := toNat_of_isDigit h
  have hall : ∀ n < 10, Nat.digitChar n = Char.ofNat (48 + n) := by decide
  have hsum : 48 + (c.toNat - 48) = c.toNat := by omega
  rw [hall _ (by omega), hsum, Char.ofNat_toNat]

theorem digitsValue_pos {c : Char} {rest : List Char} (hc : c ≠ '0') (hd : c.isDigit = true) :
    0 < digitsValue (c :: rest) := by
  induction rest using List.reverseRecOn with
  | nil =>
    have hbounds := toNat_of_isDigit hd
    have hne : c.toNat ≠ 48 := fun h => hc (Char.ext (UInt32.toNat_inj.1 h))
    simp only [digitsValue, List.foldl_cons, List.foldl_nil]
    omega
  | append_singleton front d ih =>
    rw [← List.cons_append, digitsValue_concat]
    omega

/-- Digits without a leading zero are those of their value. -/
theorem toDigits_digitsValue {c : Char} {rest : List Char} (hc : c ≠ '0')
    (hd : ∀ d ∈ c :: rest, d.isDigit = true) : Nat.toDigits 10 (digitsValue (c :: rest)) = c :: rest := by
  induction rest using List.reverseRecOn with
  | nil =>
    have hdigit := hd c (List.mem_singleton_self c)
    have hbounds := toNat_of_isDigit hdigit
    have hvalue : digitsValue [c] = c.toNat - 48 := by simp [digitsValue]
    rw [hvalue, Nat.toDigits_of_lt_base (by omega), digitChar_of_isDigit hdigit]
  | append_singleton front d ih =>
    have hdigit : d.isDigit = true := hd d (by simp)
    have hbounds := toNat_of_isDigit hdigit
    have hfront := ih fun x hx => hd x (by
      rw [← List.cons_append]
      exact List.mem_append_left _ hx)
    have hpos : 0 < digitsValue (c :: front) := digitsValue_pos hc (hd c (by simp))
    have hvalue : digitsValue (c :: (front ++ [d])) = 10 * digitsValue (c :: front) + (d.toNat - 48) :=
      digitsValue_concat (c :: front) d
    rw [hvalue, Nat.toDigits_of_base_le (by omega) (by omega)]
    have hdiv : (10 * digitsValue (c :: front) + (d.toNat - 48)) / 10 = digitsValue (c :: front) := by omega
    have hmod : (10 * digitsValue (c :: front) + (d.toNat - 48)) % 10 = d.toNat - 48 := by omega
    rw [hdiv, hmod, hfront, digitChar_of_isDigit hdigit]
    rfl

theorem digitsValue_zeros (zeros : Nat) (digits : List Char) :
    digitsValue (List.replicate zeros '0' ++ digits) = digitsValue digits := by
  induction zeros with
  | zero => rfl
  | succ zeros ih =>
    rw [List.replicate_succ, List.cons_append, ← ih]
    rfl

/-- Digits of a positive number are zeros and then the digits without a leading zero. -/
theorem exists_zeros {digits : List Char} (hd : ∀ d ∈ digits, d.isDigit = true) (hpos : 0 < digitsValue digits) :
    ∃ zeros, digits = List.replicate zeros '0' ++ Nat.toDigits 10 (digitsValue digits) := by
  induction digits with
  | nil => cases hpos
  | cons c rest ih =>
    by_cases hc : c = '0'
    · subst hc
      have hvalue : digitsValue ('0' :: rest) = digitsValue rest := digitsValue_zeros 1 rest
      rw [hvalue] at hpos ⊢
      obtain ⟨zeros, hrest⟩ := ih (fun d h => hd d (List.mem_cons_of_mem _ h)) hpos
      refine ⟨zeros + 1, ?_⟩
      rw [List.replicate_succ, List.cons_append, ← hrest]
    · exact ⟨0, (toDigits_digitsValue hc hd).symm⟩

end Text

/-! ## Positions -/

namespace Pointer

theorem toString_of_position? {token : String} {i : Nat} (h : position? token = some i) : token = toString i := by
  apply String.toList_inj.1
  have hl : (toString i).toList = Nat.toDigits 10 i := Nat.toList_repr
  rw [hl]
  unfold position? at h
  split at h
  · cases h
  · next hzero =>
    cases h
    rw [hzero]
    rfl
  · cases h
  · next nonempty _ leading =>
    split at h
    · next hall =>
      obtain rfl := Option.some.inj h
      cases hcs : token.toList with
      | nil => exact absurd hcs nonempty
      | cons c rest =>
        have hc : c ≠ '0' := by
          rintro rfl
          exact leading rest hcs
        rw [hcs] at hall
        exact (Text.toDigits_digitsValue hc (List.all_eq_true.1 hall)).symm
    · cases h

theorem position?_eq_some_iff {token : String} {i : Nat} : position? token = some i ↔ token = toString i := by
  constructor
  · exact toString_of_position?
  · rintro rfl
    exact position?_toString i

theorem index?_eq_some_iff {token : String} {i : Nat} :
    index? token = some i ↔ token = toString i ∧ i < 0x10000000000000000 := by
  rw [index?, Option.filter_eq_some_iff, position?_eq_some_iff, decide_eq_true_iff]

end Pointer

end Schemata
