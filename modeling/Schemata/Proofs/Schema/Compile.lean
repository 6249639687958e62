import Schemata.Proofs.Json.Names
import Schemata.Schema.Compile
import Schemata.Schema.Count

/-!
# What reading a schema gives

* `Rules.ReadFrom`, `Rules.read_eq_ok_iff` : the rules of an object, keyword by keyword;
* `Node.compileProperties_eq` and its companions : the parts of a node, each from the value of its keyword;
* `Node.compileAt_object_eq_ok` : what an object is read as, if it is a schema;
* `Node.Child`, `Node.Everywhere` : the nodes just below a node; what holds of a node and of all below it;
* `Node.everywhere_of_compileAt` : what holds of each node that is read, holds everywhere in it.
-/

namespace Schemata

/-! ## Steps that may fail -/

theorem bind_eq_ok {ε α β : Type} {x : Except ε α} {f : α → Except ε β} {b : β} :
    (x >>= f) = .ok b ↔ ∃ a, x = .ok a ∧ f a = .ok b := by
  cases x with
  | ok a => exact ⟨fun h => ⟨a, rfl, h⟩, by rintro ⟨_, ⟨⟩, h⟩; exact h⟩
  | error e => exact ⟨nofun, by rintro ⟨_, ⟨⟩, _⟩⟩

theorem ok_bind {ε α β : Type} (a : α) (f : α → Except ε β) : (Except.ok a >>= f) = f a := rfl

theorem pure_eq_ok {ε α : Type} {a b : α} : (pure a : Except ε α) = .ok b ↔ a = b :=
  ⟨fun h => Except.ok.inj h, fun h => congrArg Except.ok h⟩

/-! ## Rules -/

namespace Rules

/-- The rules are those of the object, each from its keyword. -/
structure ReadFrom (path : String) (object : Json) (rules : Rules) : Prop where
  kind : ∃ named, readKind path object = .ok (rules.kind, named) ∧
    rules.nullable = (named || object.member? "nullable" == some (.bool true))
  format : ∃ name, readText path "format" object = .ok name ∧ rules.format = name.map Format.ofName
  pattern : readPattern path object = .ok rules.pattern
  allowed : readAllowed path object = .ok rules.allowed
  minLength : readLength path "minLength" object = .ok rules.minLength
  maxLength : readLength path "maxLength" object = .ok rules.maxLength
  minimum : readBound path "minimum" "exclusiveMinimum" object = .ok rules.minimum
  maximum : readBound path "maximum" "exclusiveMaximum" object = .ok rules.maximum
  required : readRequired path object = .ok rules.required
  description : rules.description = (object.member? "description").bind Json.string?
  deprecated : rules.deprecated = (object.member? "deprecated" == some (.bool true))

theorem read_eq_ok_iff {path : String} {object : Json} {rules : Rules} :
    read path object = .ok rules ↔ rules.ReadFrom path object := by
  unfold read
  simp only [bind_eq_ok, pure_eq_ok]
  constructor
  · rintro ⟨⟨kind, named⟩, hk, format, hf, pattern, hp, allowed, ha, least, hl, greatest, hg, low, hlow,
      high, hhigh, required, hr, rfl⟩
    exact ⟨⟨named, hk, rfl⟩, ⟨format, hf, rfl⟩, hp, ha, hl, hg, hlow, hhigh, hr, rfl, rfl⟩
  · rintro ⟨⟨named, hk, hn⟩, ⟨format, hf, hfo⟩, hp, ha, hl, hg, hlow, hhigh, hr, hd, hde⟩
    refine ⟨_, hk, _, hf, _, hp, _, ha, _, hl, _, hg, _, hlow, _, hhigh, _, hr, ?_⟩
    cases rules
    simp_all

theorem readTexts_map_string (path keyword expected : String) (texts : List String) :
    readTexts path keyword expected (texts.map .string) = .ok texts := by
  induction texts with
  | nil => rfl
  | cons text rest ih =>
    rw [List.map_cons, readTexts, ih]
    rfl

end Rules

namespace Node

/-! ## Keywords of parts -/

/-- What goes through the members to the first one of a name, is decided by the value of that name. -/
theorem eq_elim_lookup {β : Type} {f : List (String × Json) → β} {keyword : String} {absent : β}
    {present : Json → β} (hnil : f [] = absent)
    (hcons : ∀ name value rest, f ((name, value) :: rest) = if name = keyword then present value else f rest)
    (members : List (String × Json)) : f members = (members.lookup keyword).elim absent present := by
  induction members with
  | nil => exact hnil
  | cons entry rest ih =>
    obtain ⟨name, value⟩ := entry
    rw [hcons, Names.lookup_cons]
    by_cases h : name = keyword
    · rw [if_pos h, if_pos h.symm, Option.elim_some]
    · rw [if_neg h, if_neg (Ne.symm h), ih]

theorem compileProperties_eq (path : String) (members : List (String × Json)) :
    compileProperties path members = (members.lookup "properties").elim (.ok []) fun value =>
      match value with
      | .object properties => compileEach (Pointer.child path "properties") properties
      | _ => Rules.invalid path "properties" "an object" := by
  refine eq_elim_lookup ?_ (fun name value rest => ?_) members
  · rw [compileProperties]
  · exact compileProperties.eq_def path ((name, value) :: rest)

theorem compileItems_eq (path : String) (members : List (String × Json)) :
    compileItems path members = (members.lookup "items").elim (.ok none) fun value =>
      match value with
      | .object members => do return some (← compileAt (Pointer.child path "items") (.object members))
      | .bool _ => .ok (some any)
      | .array _ => .ok none
      | _ => Rules.invalid path "items" "a schema object or boolean" := by
  refine eq_elim_lookup ?_ (fun name value rest => ?_) members
  · rw [compileItems]
  · exact compileItems.eq_def path ((name, value) :: rest)

theorem compileAdditional_eq (path : String) (members : List (String × Json)) :
    compileAdditional path members = (members.lookup "additionalProperties").elim (.ok .open) fun value =>
      match value with
      | .bool true => .ok .open
      | .bool false => .ok .forbidden
      | .object members => do
        return .constrained (← compileAt (Pointer.child path "additionalProperties") (.object members))
      | _ => Rules.invalid path "additionalProperties" "a boolean or a schema object" := by
  refine eq_elim_lookup ?_ (fun name value rest => ?_) members
  · rw [compileAdditional]
  · exact compileAdditional.eq_def path ((name, value) :: rest)

theorem compileBranches_eq (path : String) (combinator : Combinator) (members : List (String × Json)) :
    compileBranches path combinator members = (members.lookup combinator.keyword).elim [] fun value =>
      match value with
      | .array branches => [(combinator, compileValid (Pointer.child path combinator.keyword) 0 branches)]
      | _ => [] := by
  refine eq_elim_lookup ?_ (fun name value rest => ?_) members
  · rw [compileBranches]
  · exact compileBranches.eq_def path combinator ((name, value) :: rest)

theorem compileNot_eq (path : String) (members : List (String × Json)) :
    compileNot path members = (members.lookup "not").elim [] fun value =>
      match compileAt (Pointer.child path "not") value with
      | .ok node => [(.not, [node])]
      | .error _ => [(.not, [])] := by
  refine eq_elim_lookup ?_ (fun name value rest => ?_) members
  · rw [compileNot]
  · exact compileNot.eq_def path ((name, value) :: rest)

/-- What an object is read as, if it is a schema: a reference, or all that its keywords say. -/
theorem compileAt_object_eq_ok {path : String} {members : List (String × Json)} {node : Node}
    (h : compileAt path (.object members) = .ok node) :
    (∃ target, members.lookup "$ref" = some (.string target) ∧ node = .reference target) ∨
      members.lookup "$ref" = none ∧ node.rules.ReadFrom path (.object members) ∧
        compileProperties path members = .ok node.properties ∧
        compileItems path members = .ok node.items ∧
        compileAdditional path members = .ok node.additional ∧
        node.combinations = compileBranches path .allOf members ++ compileBranches path .anyOf members
          ++ compileBranches path .oneOf members ++ compileNot path members := by
  rw [compileAt] at h
  obtain ⟨ref, href, h⟩ := bind_eq_ok.1 h
  unfold reference? at href
  rw [Json.member?] at href
  cases hl : members.lookup "$ref" with
  | none =>
    rw [hl] at href
    cases href
    simp only [bind_eq_ok, pure_eq_ok] at h
    obtain ⟨rules, hrules, properties, hproperties, items, hitems, additional, hadditional, rfl⟩ := h
    exact .inr ⟨rfl, Rules.read_eq_ok_iff.1 hrules, hproperties, hitems, hadditional, rfl⟩
  | some value =>
    rw [hl] at href
    cases value with
    | string target =>
      cases href
      exact .inl ⟨target, rfl, (pure_eq_ok.1 h).symm⟩
    | _ => cases href

theorem compileAt_of_reference {members : List (String × Json)} {target : String}
    (h : members.lookup "$ref" = some (.string target)) (path : String) :
    compileAt path (.object members) = .ok (.reference target) := by
  have href : reference? path (.object members) = .ok (some target) := by
    rw [reference?, Json.member?, h]
  rw [compileAt]
  simp only [href, ok_bind]
  rfl

/-! ## Parts of a node and parts of a schema -/

theorem mem_compileEach {path : String} {values : List (String × Json)} {properties : List (String × Node)}
    (h : compileEach path values = .ok properties) {p : String × Node} (hp : p ∈ properties) :
    ∃ m ∈ values, compileAt (Pointer.child path m.1) m.2 = .ok p.2 := by
  induction values generalizing properties with
  | nil =>
    cases h
    cases hp
  | cons entry rest ih =>
    obtain ⟨name, value⟩ := entry
    rw [compileEach] at h
    simp only [bind_eq_ok, pure_eq_ok] at h
    obtain ⟨node, hnode, nodes, hnodes, rfl⟩ := h
    rcases List.mem_cons.1 hp with rfl | hp
    · exact ⟨(name, value), List.mem_cons_self .., hnode⟩
    · obtain ⟨m, hm, hc⟩ := ih hnodes hp
      exact ⟨m, List.mem_cons_of_mem _ hm, hc⟩

theorem mem_compileValid {path : String} {values : List Json} {i : Nat} {node : Node}
    (h : node ∈ compileValid path i values) :
    ∃ value ∈ values, ∃ place, compileAt place value = .ok node := by
  induction values generalizing i with
  | nil => cases h
  | cons value rest ih =>
    rw [compileValid] at h
    split at h
    · next found hfound =>
      rcases List.mem_cons.1 h with rfl | h
      · exact ⟨value, List.mem_cons_self .., _, hfound⟩
      · obtain ⟨v, hv, hc⟩ := ih h
        exact ⟨v, List.mem_cons_of_mem _ hv, hc⟩
    · obtain ⟨v, hv, hc⟩ := ih h
      exact ⟨v, List.mem_cons_of_mem _ hv, hc⟩

/-- One node is just below another, in one of the four ways in which a node has parts. -/
inductive Child : Node → Node → Prop
  | property {node p} (h : p ∈ node.properties) : Child node p.2
  | items {node child} (h : node.items = some child) : Child node child
  | additional {node child} (h : node.additional = .constrained child) : Child node child
  | branch {node c b} (h : c ∈ node.combinations) (hb : b ∈ c.2) : Child node b

theorem Child.count_lt {node child : Node} (h : node.Child child) : child.count < node.count := by
  cases h with
  | property h => exact count_lt_of_mem_properties h
  | items h => exact count_lt_of_items h
  | additional h => exact count_lt_of_additional h
  | branch h hb => exact count_lt_of_mem_branches h hb

/-- A property that a node and all nodes below it have. -/
inductive Everywhere (P : Node → Prop) : Node → Prop
  | intro {node} (here : P node) (below : ∀ child, node.Child child → Everywhere P child) :
    Everywhere P node

theorem Everywhere.here {P : Node → Prop} {node : Node} (h : node.Everywhere P) : P node := by
  cases h with
  | intro here _ => exact here

theorem Everywhere.child {P : Node → Prop} {node child : Node} (h : node.Everywhere P)
    (hc : node.Child child) : child.Everywhere P := by
  cases h with
  | intro _ below => exact below child hc

theorem Everywhere.everywhere_children {P : Node → Prop} {node : Node} (h : node.Everywhere P) :
    node.Everywhere fun n => ∀ child, n.Child child → child.Everywhere P := by
  induction h with
  | intro _ below ih => exact .intro below ih

theorem everywhere_schema {P : Node → Prop} {rules : Rules} {properties : List (String × Node)} {items : Option Node}
    {additional : Additional Node} {combinations : List (Combinator × List Node)}
    (here : P (schema rules properties items additional combinations))
    (hp : ∀ p ∈ properties, p.2.Everywhere P) (hi : ∀ child, items = some child → child.Everywhere P)
    (ha : ∀ child, additional = .constrained child → child.Everywhere P)
    (hb : ∀ c ∈ combinations, ∀ branch ∈ c.2, branch.Everywhere P) :
    (schema rules properties items additional combinations).Everywhere P := by
  refine .intro here fun child hc => ?_
  cases hc with
  | property h => exact hp _ h
  | items h => exact hi child h
  | additional h => exact ha child h
  | branch h hm => exact hb _ h child hm

section Parts

variable {path : String} {members : List (String × Json)}

theorem exists_part_of_property {properties : List (String × Node)}
    (h : compileProperties path members = .ok properties) {p : String × Node} (hp : p ∈ properties) :
    ∃ part place, (Json.object members).HasPart part ∧ compileAt place part = .ok p.2 := by
  rw [compileProperties_eq] at h
  cases hl : members.lookup "properties" with
  | none =>
    rw [hl] at h
    cases h
    cases hp
  | some value =>
    rw [hl] at h
    cases value with
    | object values =>
      obtain ⟨m, hm, hc⟩ := mem_compileEach h hp
      exact ⟨m.2, _, .trans (.of_lookup hl) (.member hm), hc⟩
    | _ => cases h

theorem exists_part_of_items {child : Node} (h : compileItems path members = .ok (some child)) :
    ∃ part place, (Json.object members).HasPart part ∧ compileAt place part = .ok child := by
  rw [compileItems_eq] at h
  cases hl : members.lookup "items" with
  | none =>
    rw [hl] at h
    cases h
  | some value =>
    rw [hl] at h
    cases value with
    | object values =>
      obtain ⟨node, hc, hnode⟩ := bind_eq_ok.1 h
      cases pure_eq_ok.1 hnode
      exact ⟨.object values, _, .of_lookup hl, hc⟩
    | bool b =>
      cases h
      exact ⟨.bool b, path, .of_lookup hl, by rw [compileAt]⟩
    | _ => cases h

theorem exists_part_of_additional {child : Node}
    (h : compileAdditional path members = .ok (.constrained child)) :
    ∃ part place, (Json.object members).HasPart part ∧ compileAt place part = .ok child := by
  rw [compileAdditional_eq] at h
  cases hl : members.lookup "additionalProperties" with
  | none =>
    rw [hl] at h
    cases h
  | some value =>
    rw [hl] at h
    cases value with
    | object values =>
      obtain ⟨node, hc, hnode⟩ := bind_eq_ok.1 h
      cases pure_eq_ok.1 hnode
      exact ⟨.object values, _, .of_lookup hl, hc⟩
    | bool b => cases b <;> cases h
    | _ => cases h

theorem exists_part_of_branches {combinator : Combinator} {c : Combinator × List Node} {b : Node}
    (h : c ∈ compileBranches path combinator members) (hb : b ∈ c.2) :
    ∃ part place, (Json.object members).HasPart part ∧ compileAt place part = .ok b := by
  rw [compileBranches_eq] at h
  cases hl : members.lookup combinator.keyword with
  | none =>
    rw [hl] at h
    cases h
  | some value =>
    rw [hl] at h
    cases value with
    | array values =>
      obtain rfl := List.mem_singleton.1 h
      obtain ⟨v, hv, place, hc⟩ := mem_compileValid hb
      exact ⟨v, place, .trans (.of_lookup hl) (.item hv), hc⟩
    | _ => cases h

theorem exists_part_of_not {c : Combinator × List Node} {b : Node} (h : c ∈ compileNot path members)
    (hb : b ∈ c.2) : ∃ part place, (Json.object members).HasPart part ∧ compileAt place part = .ok b := by
  rw [compileNot_eq] at h
  cases hl : members.lookup "not" with
  | none =>
    rw [hl] at h
    cases h
  | some value =>
    rw [hl, Option.elim_some] at h
    split at h
    · next node hnode =>
      obtain rfl := List.mem_singleton.1 h
      obtain rfl := List.mem_singleton.1 hb
      exact ⟨value, _, .of_lookup hl, hnode⟩
    · obtain rfl := List.mem_singleton.1 h
      cases hb

end Parts

/-- A node just below a node that was read, was read from a part of its schema. -/
theorem exists_part_of_child {path : String} {value : Json} {node child : Node}
    (h : compileAt path value = .ok node) (hc : node.Child child) :
    ∃ part place, value.HasPart part ∧ compileAt place part = .ok child := by
  cases value with
  | object members =>
    rcases compileAt_object_eq_ok h with ⟨target, -, rfl⟩ | ⟨-, -, hp, hi, ha, hcomb⟩
    · cases hc with
      | property h => cases h
      | items h => cases h
      | additional h => cases h
      | branch h _ => cases h
    · cases hc with
      | property h => exact exists_part_of_property hp h
      | items h => exact exists_part_of_items (h ▸ hi)
      | additional h => exact exists_part_of_additional (h ▸ ha)
      | branch h hb =>
        rw [hcomb] at h
        rcases List.mem_append.1 h with h | h
        · rcases List.mem_append.1 h with h | h
          · rcases List.mem_append.1 h with h | h
            · exact exists_part_of_branches h hb
            · exact exists_part_of_branches h hb
          · exact exists_part_of_branches h hb
        · exact exists_part_of_not h hb
  | bool b =>
    rw [compileAt] at h
    cases h
    cases hc with
    | property h => cases h
    | items h => cases h
    | additional h => cases h
    | branch h _ => cases h
  | _ =>
    simp only [compileAt] at h
    cases h

/-- **What holds of each node that is read holds everywhere in it.** The property may depend on one of the
schema that passes to all parts of the schema. -/
theorem everywhere_of_compileAt {P : Node → Prop} {Q : Json → Prop}
    (hpart : ∀ {whole part : Json}, whole.HasPart part → Q whole → Q part)
    (hlocal : ∀ {path value node}, compileAt path value = .ok node → Q value → P node)
    {path : String} {value : Json} {node : Node} (h : compileAt path value = .ok node) (hq : Q value) :
    node.Everywhere P := by
  refine .intro (hlocal h hq) fun child hc => ?_
  obtain ⟨part, place, hp, hcompile⟩ := exists_part_of_child h hc
  have := hp.sizeOf_lt
  exact everywhere_of_compileAt hpart hlocal hcompile (hpart hp hq)
termination_by sizeOf value

end Node

end Schemata
