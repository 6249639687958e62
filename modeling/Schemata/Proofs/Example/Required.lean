import Schemata.Proofs.Example.Valid
import Schemata.Proofs.Validation.Locality

/-!
# Required names that are not declared

* `Node.nodup_exampleMembers` : no example has a name twice;
* `Node.lookup_exampleMembers` : what an example has under a required name that is not declared;
* `Visit.errors_within_name_iff` : what is found at the place of such a name is what the schema for further members
  finds;
* `Node.toExample_at_required` : so the example is right there if that schema takes the placeholder, or if the name is
  the one that further members get.
-/

namespace Schemata

namespace Node

/-! ## Members of an example -/

section Members

variable {node child : Node} {name : String} {options : ExampleOptions} {depth : Nat}

theorem nodup_withRequired (required : List String) {members : List (String × Json)}
    (hd : (members.map Prod.fst).Nodup) : ((withRequired required members).map Prod.fst).Nodup := by
  induction required generalizing members with
  | nil => exact hd
  | cons other rest ih =>
    refine ih ?_
    show (List.map Prod.fst (if (members.lookup other).isSome then members
      else members ++ [(other, placeholder)])).Nodup
    split
    · exact hd
    · next habsent =>
      have hnew : other ∉ members.map Prod.fst :=
        Names.lookup_eq_none_iff.1 (Option.not_isSome_iff_eq_none.1 habsent)
      exact Names.nodup_concat hd hnew placeholder

theorem nodup_exampleMembers : ((node.exampleMembers options depth).map Prod.fst).Nodup := by
  have hrequired := nodup_withRequired node.rules.required
    (Json.nodup_keys_membersOf (node.declaredExamples options depth))
  unfold exampleMembers
  dsimp only
  split
  · split
    · exact hrequired
    · exact Json.nodup_keys_setMember hrequired _ _
  · exact hrequired
  · exact hrequired

/-- A required name that is not declared has the placeholder, unless it is the one that further members get. -/
theorem lookup_exampleMembers (options : ExampleOptions) (depth : Nat)
    (hadd : node.additional = .constrained child) (hr : name ∈ node.rules.required) (hu : node.property? name = none) :
    (node.exampleMembers options depth).lookup name =
      some (if name = additionalName ∧ options.requiredOnly = false then child.exampleAt options depth
        else placeholder) := by
  have hrequired : (withRequired node.rules.required
      (Json.membersOf (node.declaredExamples options depth))).lookup name = some placeholder := by
    rw [lookup_withRequired_declaredExamples hu, if_pos hr]
  unfold exampleMembers
  dsimp only
  rw [hadd]
  dsimp only
  split
  · next hskip =>
    rw [hrequired, if_neg]
    rintro ⟨rfl, honly⟩
    rw [honly, hu] at hskip
    cases hskip
  · next hadds =>
    rw [Json.lookup_setMember]
    rw [Bool.or_eq_true, not_or] at hadds
    by_cases hname : name = additionalName
    · rw [if_pos hname, if_pos ⟨hname, by simpa using hadds.1⟩]
    · rw [if_neg hname, if_neg fun h => hname h.1, hrequired]

end Members

end Node

/-! ## Places of members -/

namespace Visit

theorem errors_within_name_iff {limit : Nat} {node child : Node} {members : List (String × Json)} {name : String}
    {value : Json} (hd : (members.map Prod.fst).Nodup) (hr : node.isReference = false)
    (hf : node.rules.fits (.object members) = true) (hadd : node.additional = .constrained child)
    (hu : node.property? name = none) (hvalue : members.lookup name = some value) :
    (∀ e ∈ errors limit ⟨[], node, .object members⟩, e.isWithin [name] = false) ↔
      errors limit ⟨[.name name], child, value⟩ = [] := by
  have hopen : Open limit ⟨[], node, .object members⟩ := ⟨Nat.zero_le _, hr, fun hnull => nomatch hnull.1⟩
  rw [errors_of_open hopen]
  dsimp only
  rw [if_pos hf]
  constructor
  · intro h
    refine List.eq_nil_iff_forall_not_mem.2 fun e he => ?_
    have hstep : Step ⟨[], node, .object members⟩ ⟨[.name name], child, value⟩ :=
      .additional hadd hu (Names.mem_of_lookup hvalue)
    have hmem := List.mem_append_right (node.rules.violations [] (.object members))
      (List.mem_flatMap.2 ⟨_, mem_children_iff.2 hstep, he⟩)
    obtain ⟨below, hbelow⟩ := path_of_mem_errors he
    have hwithin : e.isWithin [name] = true := (Violation.isWithin_iff hbelow).2 (List.prefix_append _ _)
    rw [h e hmem] at hwithin
    cases hwithin
  · intro hnone e he
    rw [← Bool.not_eq_true]
    intro hwithin
    rcases List.mem_append.1 he with he | he
    · -- The node itself finds nothing at a member that is there.
      obtain ⟨sub, hbreaks, hpath, -⟩ := Rules.breaks_of_mem_violations he
      have hprefix : [name] <+: sub.map Segment.text := (Violation.isWithin_iff hpath).1 hwithin
      generalize e.kind = kind at hbreaks
      cases hbreaks with
      | type _ _ => simp at hprefix
      | enum _ _ _ => simp at hprefix
      | @required _ missing _ _ habsent =>
        obtain rfl : name = missing := (List.cons_prefix_cons.1 hprefix).1
        rw [hvalue] at habsent
        cases habsent
    · -- Of its children, the one of this name is there only once and is not declared.
      obtain ⟨w, hw, he⟩ := List.mem_flatMap.1 he
      obtain ⟨below, hbelow⟩ := path_of_mem_errors he
      have hprefix := (Violation.isWithin_iff hbelow).1 hwithin
      cases mem_children_iff.1 hw with
      | @property _ _ _ other declared _ hdeclared _ =>
        obtain rfl : name = other := (List.cons_prefix_cons.1 hprefix).1
        exact Names.lookup_eq_none_iff.1 hu (List.mem_map_of_mem hdeclared)
      | @additional _ _ _ other constrained found hconstrained _ hfound =>
        obtain rfl : name = other := (List.cons_prefix_cons.1 hprefix).1
        obtain rfl := Additional.constrained.inj (hadd.symm.trans hconstrained)
        obtain rfl := Option.some.inj (hvalue.symm.trans (Names.lookup_of_mem hd hfound))
        rw [List.nil_append, hnone] at he
        cases he

end Visit

/-! ## Examples -/

namespace Node

/-- **What an example has under a required name that is not declared.** Where the schema for further members takes its
own example, it takes what stands under the name just if that is the name of the one further member, or if it takes the
placeholder. The example is right at the name just if that schema finds nothing there. -/
theorem toExample_at_required {node child : Node} {name : String} (options : ExampleOptions)
    (limits : ValidateOptions) (hk : node.effectiveKind? = some .object) (hc : node.combinations = [])
    (ha : node.rules.allowed = none) (hadd : node.additional = .constrained child) (hr : name ∈ node.rules.required)
    (hu : node.property? name = none) (hroom : 1 ≤ options.maxDepth)
    (haccepts : (child.validate limits (child.exampleAt options 1)).valid = true) :
    ∃ value, (node.toExample options).member? name = some value ∧
      ((child.validate limits value).valid = true ↔
        name = additionalName ∧ options.requiredOnly = false ∨ (child.validate limits placeholder).valid = true) ∧
      ((∀ e ∈ (node.validate limits (node.toExample options)).errors, e.isWithin [name] = false) ↔
        Visit.errors limits.maxDepth ⟨[.name name], child, value⟩ = []) := by
  have hreference : node.isReference = false := by
    cases node with
    | reference target => cases hadd
    | schema => rfl
  have hexample : node.toExample options = .object (node.exampleMembers options 1) := by
    have hroom' : ¬ options.maxDepth ≤ 0 := by omega
    rw [toExample, exampleAt_of_plain hc (by simp [ha]) hreference, exampleOfKind, hk]
    simp only [if_neg hroom', Nat.zero_add]
  have hfits : node.rules.fits (.object (node.exampleMembers options 1)) = true := by
    refine fits_of_effectiveKind? fun kind hkind => ?_
    obtain rfl := Option.some.inj (hk.symm.trans hkind)
    rfl
  have hvalue := lookup_exampleMembers options 1 hadd hr hu
  rw [hexample]
  refine ⟨_, hvalue, ?_, ?_⟩
  · by_cases hkey : name = additionalName ∧ options.requiredOnly = false
    · rw [if_pos hkey]
      exact ⟨fun _ => .inl hkey, fun _ => haccepts⟩
    · rw [if_neg hkey]
      exact ⟨.inr, fun h => h.resolve_left hkey⟩
  · exact Visit.errors_within_name_iff nodup_exampleMembers hreference hfits hadd hu hvalue

/-- A schema that wants counts, one of which it names. -/
def countsSchema : Json :=
  .object [
    ("type", .string "object"),
    ("required", .array [.string "key", .string "total"]),
    ("additionalProperties", .object [("type", .string "integer")])]

def countsCount : Node := schema { kind := some .integer } [] none .open []

def counts : Node := schema { kind := some .object, required := ["key", "total"] } [] none (.constrained countsCount) []

theorem exampleAt_countsCount (depth : Nat) : countsCount.exampleAt {} depth = .ofNat 42 := by
  have hinteger : Json.number countsCount.rules.exampleInteger = .ofNat 42 := by decide +kernel
  rw [exampleAt_of_plain rfl (by rintro ⟨_, _, ⟨⟩⟩) rfl, ← hinteger]
  rfl

theorem compile_countsSchema : compile countsSchema = .ok counts := by rfl

theorem toExample_at_required_counts :
    compile countsSchema = .ok counts ∧ counts.effectiveKind? = some .object ∧ counts.combinations = [] ∧
      counts.rules.allowed = none ∧ counts.additional = .constrained countsCount ∧
      additionalName ∈ counts.rules.required ∧ counts.property? additionalName = none ∧
      (countsCount.validate {} (countsCount.exampleAt {} 1)).valid = true ∧
      ∃ value, (counts.toExample {}).member? additionalName = some value ∧
        (countsCount.validate {} value).valid = true := by
  have hadd : counts.additional = .constrained countsCount := rfl
  have hr : additionalName ∈ counts.rules.required := by decide
  have haccepts : (countsCount.validate {} (countsCount.exampleAt {} 1)).valid = true := by
    rw [exampleAt_countsCount]
    decide
  obtain ⟨value, hvalue, haccepted, -⟩ := toExample_at_required {} {} rfl rfl rfl hadd hr rfl (by decide) haccepts
  exact ⟨compile_countsSchema, rfl, rfl, rfl, hadd, hr, rfl, haccepts, value, hvalue, haccepted.2 (.inl ⟨rfl, rfl⟩)⟩

/-- Not every required name has a value that the schema for further members takes. -/
theorem not_accepts_at_required :
    ∃ value, compile countsSchema = .ok counts ∧ counts.effectiveKind? = some .object ∧ counts.combinations = [] ∧
      counts.rules.allowed = none ∧ counts.additional = .constrained countsCount ∧
      "total" ∈ counts.rules.required ∧ counts.property? "total" = none ∧
      (countsCount.validate {} (countsCount.exampleAt {} 1)).valid = true ∧
      (counts.toExample {}).member? "total" = some value ∧ (countsCount.validate {} value).valid = false ∧
      ∃ e ∈ (counts.validate {} (counts.toExample {})).errors, e.isWithin ["total"] = true := by
  have hexample : counts.toExample {} = .object [("key", .ofNat 42), ("total", placeholder)] := by
    rw [toExample, exampleAt_of_plain rfl (by rintro ⟨_, _, ⟨⟩⟩) rfl, exampleOfKind]
    show Json.object (Json.setMember _ (countsCount.exampleAt {} 1) _) = _
    rw [exampleAt_countsCount]
    rfl
  have haccepts : (countsCount.validate {} (countsCount.exampleAt {} 1)).valid = true := by
    rw [exampleAt_countsCount]
    decide
  refine ⟨placeholder, compile_countsSchema, rfl, rfl, rfl, rfl, by decide, rfl, haccepts, by rw [hexample]; decide, by decide, ?_⟩
  rw [hexample]
  decide

end Node

end Schemata
