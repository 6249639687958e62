import Schemata.Example.Basic
import Schemata.Proofs.Json.Members

/-!
# What an example is made of

* `Node.effectiveKind?_cases` : the effective kind is the one that a node names, or the implied one;
* `Node.exampleMembers`, `Node.exampleItems` : the parts of an object and of an array;
* `Node.exampleOfKind` : the example of a node by its effective kind;
* `Node.exampleAt_schema` : an example is the first allowed value, or else that of the merged node, or else that of
  the kind;
* `Node.mem_exampleMembers` : where the members of an object come from.
-/

namespace Schemata

theorem filterMap_attach_val {α β : Type} (l : List α) (f : α → Option β) :
    (l.attach.filterMap fun x => f x.1) = l.filterMap f :=
  calc
    l.attach.filterMap (fun x => f x.1) = (l.attach.map Subtype.val).filterMap f := List.filterMap_map.symm
    _ = l.filterMap f := by rw [List.attach_map_subtype_val]

namespace Node

/-! ## Effective kinds -/

theorem effectiveKind?_ne_other (node : Node) (tag : String) : node.effectiveKind? ≠ some (.other tag) := by
  unfold effectiveKind?
  dsimp only
  intro h
  repeat' split at h
  all_goals cases h

/-- The node says something that only objects have. -/
def saysObject (node : Node) : Bool :=
  !node.properties.isEmpty || !node.rules.required.isEmpty || !(match node.additional with | .open => true | _ => false)

/-- The kind that the keywords of a node are made for. -/
def impliedKind? (node : Node) : Option Kind :=
  if node.saysObject then some .object
  else if node.items.isSome then some .array
  else if node.rules.pattern.isSome || node.rules.format.isSome || node.rules.minLength.isSome
      || node.rules.maxLength.isSome then some .string
  else if node.rules.minimum.isSome || node.rules.maximum.isSome then some .number
  else none

theorem effectiveKind?_cases (node : Node) :
    (∃ kind, node.rules.kind = some kind ∧ node.effectiveKind? = some kind) ∨
      node.effectiveKind? = node.impliedKind? := by
  unfold effectiveKind?
  dsimp only
  cases node.rules.kind with
  | none => exact .inr rfl
  | some kind =>
    cases kind with
    | other tag => exact .inr rfl
    | _ => exact .inl ⟨_, rfl, rfl⟩

theorem kind_or_items_of_effectiveKind? {node : Node} (h : node.effectiveKind? = some .array) :
    node.rules.kind = some .array ∨ node.items ≠ none := by
  rcases node.effectiveKind?_cases with ⟨kind, hk, he⟩ | himplied
  · exact .inl (hk.trans (he.symm.trans h))
  · right
    intro hi
    rw [himplied, impliedKind?, hi] at h
    split at h
    · cases h
    · rw [if_neg (by decide)] at h
      split at h
      · cases h
      · split at h <;> cases h

theorem parts_of_effectiveKind?_eq_none {node : Node} (h : node.effectiveKind? = none) :
    node.properties = [] ∧ node.items = none := by
  rcases node.effectiveKind?_cases with ⟨kind, -, he⟩ | himplied
  · exact absurd (h.symm.trans he) nofun
  · rw [himplied, impliedKind?] at h
    by_cases ho : node.saysObject = true
    · rw [if_pos ho] at h
      cases h
    · rw [if_neg ho] at h
      by_cases hi : node.items.isSome = true
      · rw [if_pos hi] at h
        cases h
      · refine ⟨?_, Option.not_isSome_iff_eq_none.1 hi⟩
        simp only [saysObject, Bool.or_eq_true, not_or, Bool.not_eq_true', Bool.not_eq_false] at ho
        exact List.isEmpty_iff.1 ho.1.1

/-! ## Parts -/

/-- The examples of the declared properties that an object gets. -/
def declaredExamples (options : ExampleOptions) (depth : Nat) (node : Node) : List (String × Json) :=
  node.properties.filterMap fun p =>
    if options.requiredOnly && !node.isRequired p.1 then none else some (p.1, exampleAt options depth p.2)

def exampleMembers (options : ExampleOptions) (depth : Nat) (node : Node) : List (String × Json) :=
  let members := withRequired node.rules.required (Json.membersOf (node.declaredExamples options depth))
  match node.additional with
  | .constrained child =>
    if options.requiredOnly || (node.property? additionalName).isSome then members
    else Json.setMember additionalName (exampleAt options depth child) members
  | .open | .forbidden => members

def exampleItems (options : ExampleOptions) (depth : Nat) (node : Node) : List Json :=
  match node.items with
  | some child => [exampleAt options depth child]
  | none => [placeholder]

/-- The example of a node without allowed values and with nothing to merge. -/
def exampleOfKind (options : ExampleOptions) (depth : Nat) (node : Node) : Json :=
  match node.effectiveKind? with
  | some .object => .object (if options.maxDepth ≤ depth then [] else node.exampleMembers options (depth + 1))
  | some .array => .array (if options.maxDepth ≤ depth then [] else node.exampleItems options (depth + 1))
  | some .string => .string node.rules.exampleString
  | some .integer => .number node.rules.exampleInteger
  | some .number => (node.rules.exampleNumber?.map fun x => Json.number (.double x)).getD .null
  | some .boolean => .bool true
  | some .null => .null
  | some (.other _) | none => (node.firstAlternative?.map (exampleAt options depth)).getD .null

theorem exampleAt_reference (options : ExampleOptions) (depth : Nat) (target : String) :
    exampleAt options depth (.reference target) = .null := by
  rw [exampleAt]

/-- An example is the first allowed value, or else that of the merged node, or else that of the kind. -/
theorem exampleAt_schema (options : ExampleOptions) (depth : Nat) (rules : Rules)
    (properties : List (String × Node)) (items : Option Node) (additional : Additional Node)
    (combinations : List (Combinator × List Node)) :
    let node := schema rules properties items additional combinations
    exampleAt options depth node = (rules.allowed.bind List.head?).getD
      ((node.merged?.map (exampleAt options depth)).getD (node.exampleOfKind options depth)) := by
  have hdeclared := filterMap_attach_val (schema rules properties items additional combinations).properties fun p =>
    if options.requiredOnly && !(schema rules properties items additional combinations).isRequired p.1 then none
    else some (p.1, exampleAt options (depth + 1) p.2)
  dsimp only
  rw [exampleAt]
  split
  · next value ha =>
    rw [ha]
    rfl
  · next ha =>
    rw [ha, Option.getD_none]
    split
    · next merged hm =>
      rw [hm]
      rfl
    · next hm =>
      rw [hm, Option.map_none, Option.getD_none]
      unfold exampleOfKind
      cases (schema rules properties items additional combinations).effectiveKind? with
      | none =>
        dsimp only
        split
        · next branch hf =>
          rw [hf]
          rfl
        · next hf =>
          rw [hf]
          rfl
      | some kind =>
        cases kind with
        | object =>
          dsimp only
          by_cases hd : options.maxDepth ≤ depth
          · rw [if_pos hd, if_pos hd]
          · rw [if_neg hd, if_neg hd]
            unfold exampleMembers declaredExamples
            dsimp only
            rw [← hdeclared]
            split
            · next child ha =>
              rw [ha]
              dsimp only
              split <;> rfl
            · next other ha =>
              split
              · next child hc => exact absurd hc (ha child)
              · rfl
              · rfl
        | array =>
          dsimp only
          by_cases hd : options.maxDepth ≤ depth
          · rw [if_pos hd, if_pos hd]
          · rw [if_neg hd, if_neg hd]
            unfold exampleItems
            split
            · next child hi => rw [hi]
            · next hi => rw [hi]
        | other tag =>
          dsimp only
          split
          · next branch hf =>
            rw [hf]
            rfl
          · next hf =>
            rw [hf]
            rfl
        | _ => rfl

section Merged

variable {options : ExampleOptions} {depth : Nat} {node : Node}

theorem exampleAt_of_head? {value : Json} (ha : node.rules.allowed.bind List.head? = some value) :
    exampleAt options depth node = value := by
  cases node with
  | reference target => cases ha
  | schema rules properties items additional combinations =>
    have hfirst : rules.allowed.bind List.head? = some value := ha
    rw [exampleAt_schema, hfirst, Option.getD_some]

theorem exampleAt_of_merged?_eq_some {merged : Node} (ha : node.rules.allowed.bind List.head? = none)
    (hm : node.merged? = some merged) : exampleAt options depth node = exampleAt options depth merged := by
  cases node with
  | reference target =>
    rw [merged?] at hm
    cases hm
  | schema rules properties items additional combinations =>
    have hfree : rules.allowed.bind List.head? = none := ha
    rw [exampleAt_schema, hfree, hm]
    rfl

theorem exampleAt_of_merged?_eq_none (ha : node.rules.allowed.bind List.head? = none) (hm : node.merged? = none) :
    exampleAt options depth node = node.exampleOfKind options depth := by
  cases node with
  | reference target => exact exampleAt_reference ..
  | schema rules properties items additional combinations =>
    have hfree : rules.allowed.bind List.head? = none := ha
    rw [exampleAt_schema, hfree, hm]
    rfl

end Merged

/-! ## Members -/

theorem mem_withRequired {required : List String} {members : List (String × Json)} {m : String × Json}
    (h : m ∈ withRequired required members) :
    m ∈ members ∨ m.1 ∈ required ∧ members.lookup m.1 = none ∧ m.2 = placeholder := by
  induction required generalizing members with
  | nil => exact .inl h
  | cons name rest ih =>
    rw [withRequired, List.foldl_cons] at h
    by_cases hp : (members.lookup name).isSome
    · rw [if_pos hp] at h
      exact (ih h).imp_right fun ⟨hr, hm⟩ => ⟨List.mem_cons_of_mem _ hr, hm⟩
    · rw [if_neg hp] at h
      rcases ih h with h | ⟨hr, hl, hv⟩
      · rcases List.mem_append.1 h with h | h
        · exact .inl h
        · obtain rfl := List.mem_singleton.1 h
          exact .inr ⟨List.mem_cons_self .., Option.not_isSome_iff_eq_none.1 hp, rfl⟩
      · rw [List.lookup_append, Option.or_eq_none_iff] at hl
        exact .inr ⟨List.mem_cons_of_mem _ hr, hl.1, hv⟩

/-- A required name has the value that was there before, or else the placeholder. -/
theorem lookup_withRequired (required : List String) (members : List (String × Json)) (name : String) :
    (withRequired required members).lookup name =
      (members.lookup name).or (if name ∈ required then some placeholder else none) := by
  induction required generalizing members with
  | nil => simp [withRequired]
  | cons other rest ih =>
    have hstep : withRequired (other :: rest) members =
        withRequired rest (if (members.lookup other).isSome then members else members ++ [(other, placeholder)]) := rfl
    rw [hstep, ih]
    by_cases hname : name = other
    · subst hname
      cases hm : members.lookup name with
      | some value => simp [hm]
      | none => simp [hm, List.lookup_append]
    · split
      · simp [hname]
      · rw [List.lookup_append, Names.lookup_cons, if_neg hname]
        simp [hname]

theorem isSome_lookup_withRequired {required : List String} {members : List (String × Json)} {name : String}
    (h : name ∈ required) : ((withRequired required members).lookup name).isSome := by
  rw [lookup_withRequired, if_pos h, Option.isSome_or]
  exact Bool.or_true _

section Members

variable {options : ExampleOptions} {depth : Nat} {node : Node}

theorem mem_declaredExamples {m : String × Json} :
    m ∈ node.declaredExamples options depth ↔ ∃ child, (m.1, child) ∈ node.properties ∧
      (options.requiredOnly = true → m.1 ∈ node.rules.required) ∧ m.2 = child.exampleAt options depth := by
  unfold declaredExamples isRequired
  rw [List.mem_filterMap]
  constructor
  · rintro ⟨⟨name, child⟩, hp, h⟩
    split at h
    · cases h
    · next hn =>
      obtain rfl := Option.some.inj h
      exact ⟨child, hp, by simpa using hn, rfl⟩
  · rintro ⟨child, hp, hr, hv⟩
    refine ⟨(m.1, child), hp, ?_⟩
    have hn : ¬ (options.requiredOnly && !node.rules.required.contains m.1) = true := by simpa using hr
    rw [if_neg hn, ← hv]

theorem lookup_withRequired_declaredExamples {name : String} (hu : node.property? name = none) :
    (withRequired node.rules.required (Json.membersOf (node.declaredExamples options depth))).lookup name =
      if name ∈ node.rules.required then some placeholder else none := by
  rw [lookup_withRequired, Json.lookup_membersOf_of_not_mem, Option.none_or]
  intro hmem
  obtain ⟨m, hm, rfl⟩ := List.mem_map.1 hmem
  obtain ⟨declared, hp, -⟩ := mem_declaredExamples.1 hm
  exact Names.lookup_eq_none_iff.1 hu (List.mem_map_of_mem hp)

theorem keys_filterMap_sublist {α β : Type} (skipped : String × α → Bool) (f : α → β)
    (entries : List (String × α)) :
    ((entries.filterMap fun p => if skipped p then none else some (p.1, f p.2)).map Prod.fst).Sublist
      (entries.map Prod.fst) := by
  induction entries with
  | nil => exact List.Sublist.refl _
  | cons entry rest ih =>
    rw [List.filterMap_cons, List.map_cons]
    by_cases h : skipped entry = true
    · rw [if_pos h]
      exact ih.cons _
    · rw [if_neg h]
      exact ih.cons_cons _

theorem nodup_declaredExamples (hd : (node.properties.map Prod.fst).Nodup) :
    ((node.declaredExamples options depth).map Prod.fst).Nodup :=
  hd.sublist (keys_filterMap_sublist _ _ node.properties)

theorem mem_withRequired_declared (hd : (node.properties.map Prod.fst).Nodup) {m : String × Json}
    (h : m ∈ withRequired node.rules.required (Json.membersOf (node.declaredExamples options depth))) :
    (∃ child, (m.1, child) ∈ node.properties ∧ m.2 = child.exampleAt options depth) ∨
      m.1 ∈ node.rules.required ∧ node.property? m.1 = none := by
  rw [Json.membersOf_of_nodup (nodup_declaredExamples hd)] at h
  rcases mem_withRequired h with h | ⟨hr, hl, -⟩
  · obtain ⟨child, hp, -, hv⟩ := mem_declaredExamples.1 h
    exact .inl ⟨child, hp, hv⟩
  · refine .inr ⟨hr, Option.eq_none_iff_forall_ne_some.2 fun child hc => ?_⟩
    have hm : (m.1, child.exampleAt options depth) ∈ node.declaredExamples options depth :=
      mem_declaredExamples.2 ⟨child, Names.mem_of_lookup hc, fun _ => hr, rfl⟩
    rw [Names.lookup_of_mem (nodup_declaredExamples hd) hm] at hl
    cases hl

/-- A member of an example is that of a declared property, stands for a required one that is not declared, or is the
one further property. -/
theorem mem_exampleMembers (hd : (node.properties.map Prod.fst).Nodup) {m : String × Json}
    (h : m ∈ node.exampleMembers options depth) :
    (∃ child, (m.1, child) ∈ node.properties ∧ m.2 = child.exampleAt options depth) ∨
      (m.1 ∈ node.rules.required ∧ node.property? m.1 = none) ∨
      (∃ child, node.additional = .constrained child ∧ node.property? m.1 = none ∧
        m.2 = child.exampleAt options depth) := by
  unfold exampleMembers at h
  dsimp only at h
  split at h
  · next child ha =>
    split at h
    · exact (mem_withRequired_declared hd h).imp_right .inl
    · next hk =>
      rcases Json.mem_setMember h with rfl | h
      · rw [Bool.or_eq_true, not_or, Option.not_isSome_iff_eq_none] at hk
        exact .inr (.inr ⟨child, ha, hk.2, rfl⟩)
      · exact (mem_withRequired_declared hd h).imp_right .inl
  · exact (mem_withRequired_declared hd h).imp_right .inl
  · exact (mem_withRequired_declared hd h).imp_right .inl

theorem isSome_lookup_exampleMembers {name : String} (h : name ∈ node.rules.required) :
    ((node.exampleMembers options depth).lookup name).isSome := by
  have hr : ((withRequired node.rules.required
      (Json.membersOf (node.declaredExamples options depth))).lookup name).isSome :=
    isSome_lookup_withRequired h
  unfold exampleMembers
  dsimp only
  split
  · split
    · exact hr
    · rw [Json.lookup_setMember]
      split
      · rfl
      · exact hr
  · exact hr
  · exact hr

end Members

end Node

end Schemata
