import Schemata.Format.Basic

/-!
# The texts of the formats

* `CharSet.contains_ofRanges` : a set made from ranges contains what they contain;
* `Format.isAnyDigit_of_isDigit`, `Net.isForbidden_eq` : the checks on ASCII, without their tables;
* `Format.check_of_mem_examples` : every text that a format offers has the format.
-/

namespace Schemata

/-! ## Digits -/

namespace CharSet

theorem contains_insertRange {lo hi code : Nat} {ranges : List (Nat × Nat)}
    (h : (lo ≤ code ∧ code ≤ hi) ∨ ∃ r ∈ ranges, r.1 ≤ code ∧ code ≤ r.2) :
    ∃ r ∈ insertRange lo hi ranges, r.1 ≤ code ∧ code ≤ r.2 := by
  induction ranges generalizing lo hi with
  | nil => exact ⟨(lo, hi), List.mem_singleton.2 rfl, h.resolve_right fun ⟨r, mem, _⟩ => nomatch mem⟩
  | cons range rest ih =>
    obtain ⟨x, y⟩ := range
    simp only [List.mem_cons, exists_eq_or_imp] at h
    rw [insertRange]
    split
    next => simpa only [List.mem_cons, exists_eq_or_imp] using h
    next =>
      split
      next =>
        simp only [List.mem_cons, exists_eq_or_imp]
        exact (or_left_comm.1 h).imp_right ih
      next =>
        refine ih ((or_assoc.2 h).imp_left ?_)
        -- the joined range reaches over both
        rintro (⟨low, high⟩ | ⟨low, high⟩)
        · exact ⟨Nat.le_trans (Nat.min_le_left ..) low, Nat.le_trans high (Nat.le_max_left ..)⟩
        · exact ⟨Nat.le_trans (Nat.min_le_right ..) low, Nat.le_trans high (Nat.le_max_right ..)⟩

theorem contains_ofRanges {code : Nat} {ranges : List (Nat × Nat)} {r : Nat × Nat} (mem : r ∈ ranges)
    (within : r.1 ≤ code ∧ code ≤ r.2) : (ofRanges ranges).containsCode code = true := by
  have inside : ∃ r ∈ (ofRanges ranges).ranges, r.1 ≤ code ∧ code ≤ r.2 := by
    induction ranges with
    | nil => exact absurd mem List.not_mem_nil
    | cons first rest ih =>
      obtain rfl | mem := List.mem_cons.1 mem
      · exact contains_insertRange (.inl within)
      · exact contains_insertRange (.inr (ih mem))
  obtain ⟨r, mem, within⟩ := inside
  exact List.any_eq_true.2 ⟨r, mem, by simpa using within⟩

end CharSet

namespace Format

theorem toNat_of_isDigit {c : Char} (h : c.isDigit = true) : 48 ≤ c.toNat ∧ c.toNat ≤ 57 := by
  simpa [Char.isDigit, UInt32.le_iff_toNat_le] using h

theorem isAnyDigit_of_isDigit {c : Char} (h : c.isDigit = true) : isAnyDigit c = true := by
  have table : (48, 57) ∈ ((Unicode.setUnder? Unicode.categories "Nd").getD .empty).ranges := by decide +kernel
  exact CharSet.contains_ofRanges (List.mem_flatMap.2 ⟨"Nd", List.mem_singleton.2 rfl, table⟩) (toNat_of_isDigit h)

theorem isGrouped_anyDigit {sizes : List Nat} {text : List Char} (grouped : isGrouped Char.isDigit sizes text = true) :
    isGrouped isAnyDigit sizes text = true := by
  simp only [isGrouped, Bool.and_eq_true, List.all_eq_true] at grouped ⊢
  exact ⟨grouped.1, fun group mem c inGroup => isAnyDigit_of_isDigit (grouped.2 group mem c inGroup)⟩

end Format

/-! ## URLs -/

theorem Net.isForbidden_eq :
    isForbidden = fun c => c.toNat ≤ 0x20 || c.toNat = 0x7F || decide (c ∈ "%#/:<>?@[\\]^|".toList) := by
  funext c
  rw [isForbidden, String.contains_char_eq]

/-! ## All formats -/

namespace Format

theorem isAbsolute_of_mem_examples : ∀ literal ∈ uri.examples, Net.Url.isAbsolute literal.toList = true := by
  simp only [Net.Url.isAbsolute, Net.Url.isRest, Net.Url.isAuthority, Net.Host.isDomain, Net.HostName.ofText?,
    Net.isForbidden_eq]
  decide +kernel

theorem check_of_mem_examples {format : Format} : ∀ literal ∈ format.examples, format.check literal = true := by
  cases format with
  | email | date | dateTime | uuid | ipv4 | ipv6 => decide +kernel
  | uri | url => exact isAbsolute_of_mem_examples
  | ssn =>
    rintro literal mem
    obtain rfl := List.mem_singleton.1 mem
    show isGrouped isAnyDigit [3, 2, 4] "123-45-6789".toList = true
    exact isGrouped_anyDigit (by decide)
  | phone =>
    rintro literal mem
    obtain rfl := List.mem_singleton.1 mem
    show isGrouped isAnyDigit [3, 3, 4] "555-123-4567".toList = true
    exact isGrouped_anyDigit (by decide)
  | other name => nofun

end Format

end Schemata
