import Mathlib.Data.List.Infix

/-!
# Lower case

* `Text.Lowers` : characters are a lower-case form of others;
* `Text.Lowers.infix_iff` : whether a word stands in it can be told from the characters of ASCII alone, if the word has
  plain letters only.
-/

namespace Schemata.Text

/-- The characters are a lower-case form of others. One of ASCII has one form, which is of ASCII; that of another
character depends on the tables of Unicode, but of the letters of ASCII it has `i` and `k` at most. -/
inductive Lowers : List Char → List Char → Prop
  | nil : Lowers [] []
  | ascii {c text lower} (hc : c.toNat < 128) (h : Lowers text lower) : Lowers (c :: text) (c.toLower :: lower)
  | beyond {c text form lower} (hc : 128 ≤ c.toNat) (hform : form ≠ [])
      (letters : ∀ d ∈ form, d.isAlpha = true → d = 'i' ∨ d = 'k') (h : Lowers text lower) :
      Lowers (c :: text) (form ++ lower)

/-- A letter of ASCII that stands in the lower-case form of no other characters than those of ASCII. -/
structure IsPlain (c : Char) : Prop where
  letter : c.isAlpha = true
  ne_i : c ≠ 'i'
  ne_k : c ≠ 'k'

theorem isUpper_of_le {c : Char} (h : 128 ≤ c.toNat) : c.isUpper = false := by
  refine decide_eq_false fun hc => ?_
  have hle : c.toNat ≤ 90 := UInt32.le_iff_toNat_le.1 hc.2
  omega

theorem isLower_of_le {c : Char} (h : 128 ≤ c.toNat) : c.isLower = false := by
  refine Bool.and_eq_false_imp.2 fun _ => decide_eq_false fun hc => ?_
  have hle : c.toNat ≤ 122 := UInt32.le_iff_toNat_le.1 hc
  omega

theorem isAlpha_of_le {c : Char} (h : 128 ≤ c.toNat) : c.isAlpha = false :=
  Bool.or_eq_false_iff.2 ⟨isUpper_of_le h, isLower_of_le h⟩

theorem toLower_of_le {c : Char} (h : 128 ≤ c.toNat) : c.toLower = c := by
  refine dif_neg fun hc => ?_
  have hle : c.toNat ≤ 90 := UInt32.le_iff_toNat_le.1 hc.2
  omega

theorem lowers_map_toLower (text : List Char) : Lowers text (text.map Char.toLower) := by
  induction text with
  | nil => exact .nil
  | cons c text ih =>
    by_cases hc : c.toNat < 128
    · exact .ascii hc ih
    · have hc : 128 ≤ c.toNat := Nat.le_of_not_lt hc
      refine @Lowers.beyond c text [c.toLower] _ hc nofun (fun d hd letter => ?_) ih
      rw [List.mem_singleton.1 hd, toLower_of_le hc, isAlpha_of_le hc] at letter
      cases letter

namespace Lowers

variable {word text lower form : List Char} {c : Char}

theorem not_isPlain_of_mem (letters : ∀ d ∈ form, d.isAlpha = true → d = 'i' ∨ d = 'k') (hc : c ∈ form) :
    ¬ IsPlain c := fun h => (letters c hc h.letter).elim h.ne_i h.ne_k

/-- A word of plain letters does not begin with a character of another sort. -/
theorem prefix_cons_iff_of_not_isPlain (hw : ∀ d ∈ word, IsPlain d) (hc : ¬ IsPlain c) :
    word <+: c :: text ↔ word = [] := by
  cases word with
  | nil => simp
  | cons d word =>
    have hd : d ≠ c := fun heq => hc (heq ▸ hw d (List.mem_cons_self ..))
    simp [List.cons_prefix_cons, hd]

/-- Nor does it stand across such characters. -/
theorem infix_append_iff_of_not_isPlain (hw : ∀ d ∈ word, IsPlain d) (hword : word ≠ [])
    (hform : ∀ d ∈ form, ¬ IsPlain d) :
    word <:+: form ++ text ↔ word <:+: text := by
  induction form with
  | nil => rfl
  | cons d form ih =>
    rw [List.cons_append, List.infix_cons_iff, prefix_cons_iff_of_not_isPlain hw (hform d (List.mem_cons_self ..)),
      ih fun e he => hform e (List.mem_cons_of_mem _ he)]
    exact or_iff_right hword

theorem prefix_iff (hw : ∀ d ∈ word, IsPlain d) (h : Lowers text lower) :
    word <+: lower ↔ word <+: text.map Char.toLower := by
  induction h generalizing word with
  | nil => rfl
  | @ascii c text lower hc h ih =>
    cases word with
    | nil => simp
    | cons d word =>
      rw [List.map_cons, List.cons_prefix_cons, List.cons_prefix_cons, ih fun e he => hw e (List.mem_cons_of_mem _ he)]
  | @beyond c text form lower hc hform letters h ih =>
    obtain ⟨d, form, rfl⟩ := List.exists_cons_of_ne_nil hform
    have hplain : ¬ IsPlain c.toLower := by
      rw [toLower_of_le hc]
      exact fun h => Bool.false_ne_true ((isAlpha_of_le hc).symm.trans h.letter)
    rw [List.map_cons, List.cons_append, prefix_cons_iff_of_not_isPlain hw hplain,
      prefix_cons_iff_of_not_isPlain hw (not_isPlain_of_mem letters (List.mem_cons_self ..))]

/-- **Whether a word of plain letters stands in a lower-case form does not depend on the form.** -/
theorem infix_iff (hw : ∀ d ∈ word, IsPlain d) (hword : word ≠ []) (h : Lowers text lower) :
    word <:+: lower ↔ word <:+: text.map Char.toLower := by
  induction h with
  | nil => rfl
  | @ascii c text lower hc h ih =>
    rw [List.map_cons, List.infix_cons_iff, List.infix_cons_iff, ih, ← List.map_cons, ← prefix_iff hw (.ascii hc h)]
  | @beyond c text form lower hc hform letters h ih =>
    have hplain : ∀ d ∈ [c.toLower], ¬ IsPlain d := by
      intro d hd
      rw [List.mem_singleton.1 hd, toLower_of_le hc]
      exact fun h => Bool.false_ne_true ((isAlpha_of_le hc).symm.trans h.letter)
    rw [List.map_cons, ← List.singleton_append, infix_append_iff_of_not_isPlain hw hword hplain,
      infix_append_iff_of_not_isPlain hw hword fun d hd => not_isPlain_of_mem letters hd, ih]

end Lowers

end Schemata.Text
