import Schemata.Proofs.Example.Merged

/-!
# Absorbing in groups

* `foldl_addUnless_assoc` : where only what is missing is added to a list, lists may be put together in groups;
* `Node.absorb_assoc` : so may nodes, each with what it says about kinds, keywords, properties and branches;
* `Node.foldl_absorb` : a node absorbs others one after the other as it absorbs them all at once;
* `Node.tidy` : a node without an unknown kind and without an `allOf` that has no branches; it passes through absorbing
  (`Node.tidy_absorb`), and absorbing a schema that says nothing does not show in it (`Node.tidy_absorb_any`).
-/

namespace Schemata

/-! ## Adding what is missing -/

section Lists

variable {α : Type} {present : List α → α → Bool}

/-- The list with one more entry, unless that counts as present. -/
def addUnless (present : List α → α → Bool) (entries : List α) (a : α) : List α :=
  if present entries a then entries else entries ++ [a]

/-- Where only what is missing is added, lists may be put together in groups. -/
theorem foldl_addUnless_assoc
    (h : ∀ a b x, present b x = true → present (b.foldl (addUnless present) a) x = true) (a b c : List α) :
    c.foldl (addUnless present) (b.foldl (addUnless present) a) =
      (c.foldl (addUnless present) b).foldl (addUnless present) a := by
  induction c generalizing b with
  | nil => rfl
  | cons x rest ih =>
    have hone : addUnless present (b.foldl (addUnless present) a) x =
        (addUnless present b x).foldl (addUnless present) a := by
      by_cases hx : present b x = true
      · rw [addUnless, addUnless, if_pos (h a b x hx), if_pos hx]
      · rw [addUnless.eq_def present b, if_neg hx, List.foldl_append, List.foldl_cons, List.foldl_nil]
    rw [List.foldl_cons, List.foldl_cons, hone, ih]

end Lists

/-! ## Rules -/

namespace Rules

def joinNames (names others : List String) : List String :=
  others.foldl (addUnless List.contains) names

theorem mem_joinNames {names others : List String} {name : String} :
    name ∈ joinNames names others ↔ name ∈ names ∨ name ∈ others := by
  induction others generalizing names with
  | nil => exact (or_iff_left List.not_mem_nil).symm
  | cons other rest ih =>
    have hone : name ∈ addUnless List.contains names other ↔ name ∈ names ∨ name = other := by
      by_cases h : names.contains other = true
      · rw [addUnless, if_pos h]
        exact ⟨.inl, fun hor => hor.elim id fun heq => heq ▸ List.contains_iff_mem.1 h⟩
      · rw [addUnless, if_neg h, List.mem_append, List.mem_singleton]
    rw [joinNames, List.foldl_cons, List.mem_cons, ← or_assoc, ← hone]
    exact ih

theorem joinNames_assoc (a b c : List String) : joinNames (joinNames a b) c = joinNames a (joinNames b c) := by
  refine foldl_addUnless_assoc (fun a b x hx => ?_) a b c
  exact List.contains_iff_mem.2 (mem_joinNames.2 (.inr (List.contains_iff_mem.1 hx)))

theorem mem_required_absorb_iff {target branch : Rules} {name : String} :
    name ∈ (target.absorb branch).required ↔ name ∈ target.required ∨ name ∈ branch.required :=
  mem_joinNames

/-- The first of two kinds if it is known, or else the second. -/
def joinKinds : Option Kind → Option Kind → Option Kind
  | none, other | some (.other _), other => other
  | some kind, _ => some kind

theorem joinKinds_assoc (a b c : Option Kind) : joinKinds (joinKinds a b) c = joinKinds a (joinKinds b c) := by
  cases a with
  | none => rfl
  | some kind => cases kind <;> rfl

theorem absorb_eq (target branch : Rules) :
    target.absorb branch =
      { target with
        kind := joinKinds target.kind branch.kind
        format := target.format.or branch.format
        pattern := target.pattern.or branch.pattern
        allowed := target.allowed.or branch.allowed
        minLength := target.minLength.or branch.minLength
        maxLength := target.maxLength.or branch.maxLength
        minimum := target.minimum.or branch.minimum
        maximum := target.maximum.or branch.maximum
        required := joinNames target.required branch.required } := by
  unfold absorb
  cases target.kind with
  | none => rfl
  | some kind => cases kind <;> rfl

theorem absorb_assoc (a b c : Rules) : (a.absorb b).absorb c = a.absorb (b.absorb c) := by
  simp only [absorb_eq, joinKinds_assoc, joinNames_assoc, Option.or_assoc]

/-- The rules, an unknown kind counting as none. -/
def tidy (rules : Rules) : Rules := { rules with kind := joinKinds rules.kind none }

theorem tidy_absorb (target branch : Rules) : (target.absorb branch).tidy = target.tidy.absorb branch.tidy := by
  have hkind : ∀ a b : Option Kind, joinKinds (joinKinds a b) none = joinKinds (joinKinds a none) (joinKinds b none) := by
    intro a b
    cases a with
    | none => rfl
    | some kind => cases kind <;> rfl
  simp only [absorb_eq, tidy, hkind]

theorem tidy_absorb_empty (target : Rules) : (target.absorb {}).tidy = target.tidy := by
  have hnames : joinNames target.required [] = target.required := rfl
  simp only [absorb_eq, tidy, joinKinds_assoc, hnames, Option.or_none]
  rfl

end Rules

/-! ## Nodes -/

theorem Additional.or_assoc {α : Type} (a b c : Additional α) : (a.or b).or c = a.or (b.or c) := by
  cases a <;> rfl

namespace Node

theorem addMissing_eq_foldl (properties others : List (String × Node)) :
    addMissing properties others =
      others.foldl (addUnless fun entries entry => (entries.lookup entry.1).isSome) properties := by
  induction others generalizing properties with
  | nil => rfl
  | cons entry rest ih =>
    obtain ⟨name, node⟩ := entry
    rw [addMissing, List.foldl_cons, addUnless]
    by_cases h : (properties.lookup name).isSome = true
    · rw [if_pos h, if_pos h, ih]
    · rw [if_neg h, if_neg h, ih]

theorem addMissing_assoc (a b c : List (String × Node)) :
    addMissing (addMissing a b) c = addMissing a (addMissing b c) := by
  simp only [addMissing_eq_foldl]
  refine foldl_addUnless_assoc (fun a b entry h => ?_) a b c
  rw [← addMissing_eq_foldl, lookup_addMissing, Option.isSome_or, h, Bool.or_true]

/-- Nodes may be absorbed in groups. A reference absorbs nothing, so it does not stand in the middle. -/
theorem absorb_assoc {b : Node} (hb : ∀ name, b ≠ reference name) (a c : Node) :
    (a.absorb b).absorb c = a.absorb (b.absorb c) := by
  cases b with
  | reference name => exact absurd rfl (hb name)
  | schema =>
    cases a with
    | reference name => rfl
    | schema =>
      cases c with
      | reference name => rfl
      | schema =>
        simp only [absorb, Rules.absorb_assoc, addMissing_assoc, Option.or_assoc, Additional.or_assoc, List.append_assoc]

theorem foldl_absorb {b : Node} (hb : ∀ name, b ≠ reference name) (a : Node) (branches : List Node) :
    branches.foldl absorb (a.absorb b) = a.absorb (branches.foldl absorb b) := by
  induction branches generalizing b with
  | nil => rfl
  | cons branch rest ih =>
    rw [List.foldl_cons, List.foldl_cons, absorb_assoc hb, ih (absorb_ne_reference hb branch)]

/-! ## What an absorbed node leaves -/

/-- The combination is not an `allOf` without branches. -/
def combines (c : Combinator × List Node) : Bool := !(c.1 = .allOf ∧ c.2.isEmpty)

/-- The node without an unknown kind, and without an `allOf` that has no branches. -/
def tidy : Node → Node
  | reference target => reference target
  | schema rules properties items additional combinations =>
    schema rules.tidy properties items additional (combinations.filter combines)

theorem tidy_absorb (target branch : Node) : (target.absorb branch).tidy = target.tidy.absorb branch.tidy := by
  cases target with
  | reference name => rfl
  | schema =>
    cases branch with
    | reference name => rfl
    | schema => simp only [absorb, tidy, Rules.tidy_absorb, List.filter_append]

theorem tidy_foldl_absorb (target : Node) (branches : List Node) :
    (branches.foldl absorb target).tidy = (branches.map tidy).foldl absorb target.tidy := by
  rw [List.foldl_map]
  exact (List.foldl_hom tidy fun target branch => (tidy_absorb target branch).symm).symm

theorem tidy_absorb_any (target : Node) : (target.absorb any).tidy = target.tidy := by
  cases target with
  | reference name => rfl
  | schema rules properties items additional combinations =>
    have hadditional : additional.or .open = additional := by cases additional <;> rfl
    rw [any, absorb, tidy, tidy, Rules.tidy_absorb_empty, addMissing, Option.or_none, hadditional, List.append_nil]

end Node

end Schemata
