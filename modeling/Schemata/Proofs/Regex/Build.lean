import Schemata.Proofs.Regex.Match

/-!
# What built expressions match

* `Expr.spans_concatOf` : a sequence matches what its parts match one after the other, joined literals and all;
* `Expr.spans_ofSet` : a class takes each of its characters, also where it became a literal;
* `Expr.maxBytes?_ofSet_ne_zero` : it takes at least one byte, if anything.
-/

namespace Schemata

theorem CharSet.ranges_of_single? {set : CharSet} {code : Nat} (h : set.single? = some code) :
    set.ranges = [(code, code)] := by
  rw [CharSet.single?] at h
  split at h
  next lo hi hranges =>
    obtain ⟨rfl, rfl⟩ : lo = hi ∧ lo = code := by simpa using h
    exact hranges
  next => cases h

namespace Regex.Expr

variable {text : List Char} {i j : Nat}

theorem spansAll_singleton {e : Expr} : SpansAll text [e] i j ↔ e.Spans text i j := by
  simp [SpansAll]

theorem spansAll_parts (e : Expr) : SpansAll text e.parts i j ↔ e.Spans text i j := by
  cases e with
  | empty => simp [parts, SpansAll, Spans]
  | concat parts => simp only [Expr.parts, Spans]
  | _ => exact spansAll_singleton

theorem spansAll_flatMap_parts (es : List Expr) : SpansAll text (es.flatMap parts) i j ↔ SpansAll text es i j := by
  induction es generalizing i with
  | nil => rfl
  | cons e rest ih => simp only [List.flatMap_cons, spansAll_append, spansAll_parts, SpansAll, ih]

theorem spans_literal_append {front back : List Char} :
    (literal (front ++ back)).Spans text i j ↔
      ∃ k, (literal front).Spans text i k ∧ (literal back).Spans text k j := by
  simp only [Spans, append_prefix_drop_iff, List.length_append]
  constructor
  · rintro ⟨⟨hfront, hback⟩, rfl⟩
    exact ⟨_, ⟨hfront, rfl⟩, hback, (Nat.add_assoc ..).symm⟩
  · rintro ⟨_, ⟨hfront, rfl⟩, hback, rfl⟩
    exact ⟨⟨hfront, hback⟩, Nat.add_assoc ..⟩

theorem spansAll_joinLiterals {es : List Expr} : SpansAll text (joinLiterals es) i j ↔ SpansAll text es i j := by
  induction es generalizing i with
  | nil => rfl
  | cons e rest ih =>
    unfold joinLiterals
    split
    next front back joined heq =>
      simp only [SpansAll, spans_literal_append, ← ih, heq]
      grind
    next => simp only [SpansAll, ih]

/-- A sequence matches what its parts match one after the other. -/
theorem spans_concatOf {es : List Expr} : (concatOf es).Spans text i j ↔ SpansAll text es i j := by
  rw [← spansAll_flatMap_parts es, ← spansAll_joinLiterals, concatOf]
  split
  next heq => rw [heq, Spans, SpansAll]
  next e heq => rw [heq, spansAll_singleton]
  next => rw [Spans]

theorem spans_ofSet {bytes : Bool} {set : CharSet} {c : Char} (there : text[i]? = some c) (mem : set.contains c = true) :
    (ofSet bytes set).Spans text i (i + 1) := by
  obtain ⟨r, hr, within⟩ := List.any_eq_true.1 mem
  rw [ofSet]
  split
  next hempty => exact absurd (List.isEmpty_iff.1 hempty ▸ hr) List.not_mem_nil
  next =>
    split
    next code hsingle =>
      rw [CharSet.ranges_of_single? hsingle] at hr
      obtain rfl := List.mem_singleton.1 hr
      have hcode : c.toNat = code := by
        simp only [Bool.and_eq_true, decide_eq_true_eq] at within
        omega
      rw [← hcode, Char.ofNat_toNat, Spans, cons_prefix_drop]
      exact ⟨⟨there, List.nil_prefix⟩, rfl⟩
    next =>
      rw [Spans]
      exact ⟨⟨c, there, mem⟩, rfl⟩

theorem utf8Width_ne_zero (code : Nat) : utf8Width code ≠ 0 := by
  unfold utf8Width
  split_ifs <;> decide

theorem maxBytes?_literal_ne_zero (c : Char) : (literal [c]).maxBytes? ≠ some 0 :=
  fun h => utf8Width_ne_zero c.toNat (Option.some.inj h)

theorem maxBytes?_charClass_ne_zero (bytes : Bool) (set : CharSet) : (charClass bytes set).maxBytes? ≠ some 0 := by
  intro h
  obtain ⟨range, -, hwidth⟩ := Option.map_eq_some_iff.1 h
  exact utf8Width_ne_zero range.2 hwidth

theorem maxBytes?_ofSet_ne_zero (bytes : Bool) (set : CharSet) : (ofSet bytes set).maxBytes? ≠ some 0 := by
  rw [ofSet]
  split
  · exact maxBytes?_charClass_ne_zero _ _
  · split
    · exact maxBytes?_literal_ne_zero _
    · exact maxBytes?_charClass_ne_zero _ _

end Regex.Expr

end Schemata
