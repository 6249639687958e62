import Mathlib.Logic.Relation
import Schemata.Proofs.Json.Members
import Schemata.Proofs.Schema.Compile

/-!
# Schemas that are read alike

* `map_bind_congr` : steps that look the same, one after the other;
* `Rules.ReadAlike`, `Rules.read_congr` : what the rules of an object depend on;
* `Node.Respects` : a view of nodes that sees of the parts of a node only their views; `Node.Through` : one that is a
  node again;
* `Node.map_compileAt_of_respects` : under such a view, what an object is read as depends on its reference, its rules
  and its parts;
* `Json.AtNode` : two schemas differ at one node only;
* `Node.map_compileAt_of_atNode`, `Node.map_compileAt_of_edits` : if the nodes there look the same, then so do the
  schemas; and hence after any number of such changes.
-/

namespace Schemata

/-! ## Steps that look the same -/

section Steps

variable {ε α β γ δ : Type} {x y : Except ε α}

/-- Two steps that look the same fail with the same error, or have results that look the same. -/
theorem cases_of_map_eq {f g : α → β} (h : x.map f = y.map g) :
    (∃ e, x = .error e ∧ y = .error e) ∨ ∃ a b, x = .ok a ∧ y = .ok b ∧ f a = g b := by
  cases x with
  | error e =>
    cases y with
    | error e' =>
      cases h
      exact .inl ⟨e, rfl, rfl⟩
    | ok b => cases h
  | ok a =>
    cases y with
    | error e => cases h
    | ok b => exact .inr ⟨a, b, rfl, rfl, Except.ok.inj h⟩

/-- Steps that follow steps which look the same look the same, if they do so after results that look the same. -/
theorem map_bind_congr {f : α → β} {k l : α → Except ε γ} {g : γ → δ} (h : x.map f = y.map f)
    (hk : ∀ a b, f a = f b → (k a).map g = (l b).map g) : (x >>= k).map g = (y >>= l).map g := by
  obtain ⟨e, rfl, rfl⟩ | ⟨a, b, rfl, rfl, hab⟩ := cases_of_map_eq h
  · rfl
  · exact hk a b hab

theorem map_comp_congr {f : α → β} (h : x.map f = y.map f) (g : β → γ) :
    (x.map fun a => g (f a)) = y.map fun a => g (f a) := by
  obtain ⟨e, rfl, rfl⟩ | ⟨a, b, rfl, rfl, hab⟩ := cases_of_map_eq h
  · rfl
  · exact congrArg (fun c => Except.ok (g c)) hab

/-- Steps that follow the same step look the same if they do so after each result. -/
theorem map_bind_congr_right {k l : α → Except ε γ} {g : γ → δ} (hk : ∀ a, (k a).map g = (l a).map g) :
    (x >>= k).map g = (x >>= l).map g := by
  cases x with
  | error e => rfl
  | ok a => exact hk a

end Steps

/-! ## Rules -/

namespace Rules

variable {path : String} {object object' : Json}

/-- The keywords of rules that are read one by one, those of kinds and bounds apart. -/
def singleKeywords : List String :=
  ["format", "pattern", "enum", "minLength", "maxLength", "required", "description", "deprecated"]

/-- The kind that an object names, and whether it allows `null` in either of the two ways. -/
def readNullable (path : String) (object : Json) : Except SchemaError (Option Kind × Bool) :=
  (readKind path object).map fun named => (named.1, named.2 || object.member? "nullable" == some (.bool true))

/-- Each group of keywords is read alike in two objects. -/
structure ReadAlike (path : String) (object object' : Json) : Prop where
  kind : readNullable path object = readNullable path object'
  minimum : readBound path "minimum" "exclusiveMinimum" object = readBound path "minimum" "exclusiveMinimum" object'
  maximum : readBound path "maximum" "exclusiveMaximum" object = readBound path "maximum" "exclusiveMaximum" object'
  single : ∀ keyword ∈ singleKeywords, object.member? keyword = object'.member? keyword

theorem read_congr (h : ReadAlike path object object') : read path object = read path object' := by
  have single : ∀ keyword, keyword ∈ singleKeywords → object.member? keyword = object'.member? keyword := h.single
  have hkind := h.kind
  unfold readNullable at hkind
  unfold read
  simp only [readPattern, readText, readAllowed, readLength, readRequired, h.minimum, h.maximum,
    single "format" (by decide), single "pattern" (by decide), single "enum" (by decide),
    single "minLength" (by decide), single "maxLength" (by decide), single "required" (by decide),
    single "description" (by decide), single "deprecated" (by decide)]
  obtain ⟨e, hk, hk'⟩ | ⟨named, named', hk, hk', hnamed⟩ := cases_of_map_eq hkind
  · rw [hk, hk']
    rfl
  · obtain ⟨hkind, hnullable⟩ := Prod.mk.inj hnamed
    rw [hk, hk']
    simp only [ok_bind, hkind, hnullable]

def keywords : List String :=
  ["type", "nullable", "minimum", "exclusiveMinimum", "maximum", "exclusiveMaximum"] ++ singleKeywords

theorem readNullable_congr (ht : object.member? "type" = object'.member? "type")
    (hn : object.member? "nullable" = object'.member? "nullable") :
    readNullable path object = readNullable path object' := by
  unfold readNullable readKind
  rw [ht, hn]

theorem readBound_congr {inclusive exclusive : String} (hi : object.member? inclusive = object'.member? inclusive)
    (he : object.member? exclusive = object'.member? exclusive) :
    readBound path inclusive exclusive object = readBound path inclusive exclusive object' := by
  unfold readBound
  rw [hi, he]

theorem ReadAlike.of_agree (h : ∀ keyword ∈ keywords, object.member? keyword = object'.member? keyword) :
    ReadAlike path object object' where
  kind := readNullable_congr (h "type" (by decide)) (h "nullable" (by decide))
  minimum := readBound_congr (h "minimum" (by decide)) (h "exclusiveMinimum" (by decide))
  maximum := readBound_congr (h "maximum" (by decide)) (h "exclusiveMaximum" (by decide))
  single := fun keyword hk => h keyword (List.mem_append_right _ hk)

end Rules

/-! ## Views of nodes -/

/-- What is said about further properties, in other terms. -/
def Additional.map {α β : Type} (f : α → β) : Additional α → Additional β
  | .open => .open
  | .forbidden => .forbidden
  | .constrained a => .constrained (f a)

namespace Node

/-- Properties with a view of each. -/
def viewProperties {α : Type} (view : Node → α) (properties : List (String × Node)) : List (String × α) :=
  properties.map fun p => (p.1, view p.2)

theorem viewProperties_cons {α : Type} (view : Node → α) (name : String) (node : Node) (rest : List (String × Node)) :
    viewProperties view ((name, node) :: rest) = (name, view node) :: viewProperties view rest := rfl

/-- The view sees no more of a node than `keep` leaves of its rules, the views of its properties and items, what
`narrow` leaves of the view of further properties, and what `trim` leaves of what the node combines. -/
def Respects {α β γ δ : Type} (view : Node → α) (keep : Rules → β) (narrow : Additional α → γ)
    (trim : List (Combinator × List Node) → δ) : Prop :=
  ∀ {rules rules' properties properties' items items' additional additional' combinations combinations'},
    keep rules = keep rules' → viewProperties view properties = viewProperties view properties' →
    items.map view = items'.map view → narrow (additional.map view) = narrow (additional'.map view) →
    trim combinations = trim combinations' →
    view (schema rules properties items additional combinations) =
      view (schema rules' properties' items' additional' combinations')

/-- The view changes what a node combines by `trim`, and goes on in all other parts of the node. -/
def Through (view : Node → Node) (trim : List (Combinator × List Node) → List (Combinator × List Node)) : Prop :=
  ∀ rules properties items additional combinations,
    view (schema rules properties items additional combinations) =
      schema rules (viewProperties view properties) (items.map view) (additional.map view) (trim combinations)

theorem through_id : Through id id := by
  intro rules properties items additional combinations
  cases additional <;> simp [Additional.map, viewProperties]

theorem Through.respects {view : Node → Node} {trim : List (Combinator × List Node) → List (Combinator × List Node)}
    (hv : Through view trim) : Respects view id id trim := by
  intro rules rules' properties properties' items items' additional additional' combinations combinations'
    hr hp hi ha hc
  obtain rfl : rules = rules' := hr
  have hadditional : additional.map view = additional'.map view := ha
  rw [hv, hv, hp, hi, hadditional, hc]

def compileCombinations (path : String) (members : List (String × Json)) : List (Combinator × List Node) :=
  compileBranches path .allOf members ++ compileBranches path .anyOf members ++ compileBranches path .oneOf members
    ++ compileNot path members

section Objects

variable {α β γ δ : Type} {view : Node → α} {keep : Rules → β} {narrow : Additional α → γ}
  {trim : List (Combinator × List Node) → δ} {path : String} {members members' : List (String × Json)}

/-- Two objects look the same if their references, their rules and their parts do. -/
theorem map_compileAt_of_respects (hv : Respects view keep narrow trim)
    (href : members.lookup "$ref" = members'.lookup "$ref")
    (hrules : (Rules.read path (.object members)).map keep = (Rules.read path (.object members')).map keep)
    (hproperties : (compileProperties path members).map (viewProperties view) =
      (compileProperties path members').map (viewProperties view))
    (hitems : (compileItems path members).map (Option.map view) = (compileItems path members').map (Option.map view))
    (hadditional : ((compileAdditional path members).map fun a => narrow (a.map view)) =
      (compileAdditional path members').map fun a => narrow (a.map view))
    (hcombinations : trim (compileCombinations path members) = trim (compileCombinations path members')) :
    (compileAt path (.object members)).map view = (compileAt path (.object members')).map view := by
  have hreference : reference? path (.object members) = reference? path (.object members') := by
    unfold reference?
    rw [Json.member?, Json.member?, href]
  rw [compileAt, compileAt]
  rw [hreference]
  refine map_bind_congr_right fun ref => ?_
  cases ref with
  | some target => rfl
  | none =>
    refine map_bind_congr hrules fun rules rules' hr => ?_
    refine map_bind_congr hproperties fun properties properties' hp => ?_
    refine map_bind_congr hitems fun items items' hi => ?_
    refine map_bind_congr hadditional fun additional additional' ha => ?_
    exact congrArg Except.ok (hv hr hp hi ha hcombinations)

end Objects

variable {path : String} {members members' : List (String × Json)}

/-- Two objects look the same to a view that goes through their parts if their references, their rules and their parts
do. -/
theorem map_compileAt_object {view : Node → Node}
    {trim : List (Combinator × List Node) → List (Combinator × List Node)} (hv : Through view trim)
    (href : members.lookup "$ref" = members'.lookup "$ref")
    (hrules : Rules.read path (.object members) = Rules.read path (.object members'))
    (hproperties : (compileProperties path members).map (viewProperties view) =
      (compileProperties path members').map (viewProperties view))
    (hitems : (compileItems path members).map (Option.map view) = (compileItems path members').map (Option.map view))
    (hadditional : (compileAdditional path members).map (Additional.map view) =
      (compileAdditional path members').map (Additional.map view))
    (hcombinations : trim (compileCombinations path members) = trim (compileCombinations path members')) :
    (compileAt path (.object members)).map view = (compileAt path (.object members')).map view :=
  map_compileAt_of_respects hv.respects href (congrArg _ hrules) hproperties hitems hadditional hcombinations

def partKeywords : List String := ["properties", "items", "additionalProperties"]

theorem compileProperties_congr (h : members.lookup "properties" = members'.lookup "properties") :
    compileProperties path members = compileProperties path members' := by
  rw [compileProperties_eq, compileProperties_eq, h]

theorem compileItems_congr (h : members.lookup "items" = members'.lookup "items") :
    compileItems path members = compileItems path members' := by
  rw [compileItems_eq, compileItems_eq, h]

theorem compileAdditional_congr (h : members.lookup "additionalProperties" = members'.lookup "additionalProperties") :
    compileAdditional path members = compileAdditional path members' := by
  rw [compileAdditional_eq, compileAdditional_eq, h]

theorem compileCombinations_congr (h : ∀ c : Combinator, members.lookup c.keyword = members'.lookup c.keyword) :
    compileCombinations path members = compileCombinations path members' := by
  have hnot : members.lookup "not" = members'.lookup "not" := h .not
  unfold compileCombinations
  rw [compileBranches_eq, compileBranches_eq, compileBranches_eq, compileNot_eq, h, h, h, hnot,
    ← compileBranches_eq, ← compileBranches_eq, ← compileBranches_eq, ← compileNot_eq]

theorem map_compileEach_setMember {α : Type} {view : Node → α} {name : String} {s t : Json}
    {properties : List (String × Json)}
    (hn : properties.lookup name = some s)
    (h : ∀ path, (compileAt path s).map view = (compileAt path t).map view) :
    (compileEach path properties).map (viewProperties view) =
      (compileEach path (Json.setMember name t properties)).map (viewProperties view) := by
  induction properties with
  | nil => cases hn
  | cons entry rest ih =>
    obtain ⟨key, value⟩ := entry
    rw [Names.lookup_cons] at hn
    rw [Json.setMember]
    by_cases hk : name = key
    · rw [if_pos hk] at hn
      obtain rfl := Option.some.inj hn
      rw [if_pos hk.symm, compileEach, compileEach]
      refine map_bind_congr (h _) fun node node' hnode => ?_
      refine map_bind_congr_right fun nodes => ?_
      refine congrArg Except.ok ?_
      rw [viewProperties_cons, viewProperties_cons, hnode]
    · rw [if_neg hk] at hn
      rw [if_neg (Ne.symm hk), compileEach, compileEach]
      refine map_bind_congr_right fun node => ?_
      refine map_bind_congr (ih hn) fun nodes nodes' hnodes => ?_
      refine congrArg Except.ok ?_
      rw [viewProperties_cons, viewProperties_cons, hnodes]

end Node

/-! ## Schemas that differ at one node -/

/-- Two schemas differ at one node, where they have members that `R` relates. It is the node itself, that of a property,
that of items, also of items by position, or that of further properties. -/
inductive Json.AtNode (R : List (String × Json) → List (String × Json) → Prop) : Json → Json → Prop
  | here {members members'} (h : R members members') : AtNode R (.object members) (.object members')
  | property {members properties name s t} (hp : members.lookup "properties" = some (.object properties))
      (hn : properties.lookup name = some s) (h : AtNode R s t) :
      AtNode R (.object members) (.object (setMember "properties" (.object (setMember name t properties)) members))
  | items {members s t} (hi : members.lookup "items" = some s) (h : AtNode R s t) :
      AtNode R (.object members) (.object (setMember "items" t members))
  | position {members schemas i s t} (hi : members.lookup "items" = some (.array schemas))
      (hs : schemas[i]? = some s) (h : AtNode R s t) :
      AtNode R (.object members) (.object (setMember "items" (.array (schemas.set i t)) members))
  | additional {members s t} (ha : members.lookup "additionalProperties" = some s) (h : AtNode R s t) :
      AtNode R (.object members) (.object (setMember "additionalProperties" t members))

theorem Json.AtNode.objects {R : List (String × Json) → List (String × Json) → Prop} {s t : Json}
    (h : AtNode R s t) : ∃ members members', s = .object members ∧ t = .object members' := by
  cases h with
  | _ => exact ⟨_, _, rfl, rfl⟩

namespace Node

section Edits

variable {α β γ δ : Type} {view : Node → α} {keep : Rules → β} {narrow : Additional α → γ}
  {trim : List (Combinator × List Node) → δ}

/-- Two objects that agree in all keywords but those of parts look the same if their parts do. -/
theorem map_compileAt_of_agree (hv : Respects view keep narrow trim) {path : String}
    {members members' : List (String × Json)}
    (h : ∀ name, name ∉ partKeywords → members'.lookup name = members.lookup name)
    (hproperties : (compileProperties path members).map (viewProperties view) =
      (compileProperties path members').map (viewProperties view))
    (hitems : (compileItems path members).map (Option.map view) = (compileItems path members').map (Option.map view))
    (hadditional : (compileAdditional path members).map (Additional.map view) =
      (compileAdditional path members').map (Additional.map view)) :
    (compileAt path (.object members)).map view = (compileAt path (.object members')).map view := by
  refine map_compileAt_of_respects hv (h "$ref" (by decide)).symm (congrArg _ ?_) hproperties hitems
    (map_comp_congr hadditional narrow) ?_
  · refine Rules.read_congr (.of_agree fun keyword hk => (h keyword ?_).symm)
    revert keyword
    decide
  · refine congrArg trim (compileCombinations_congr fun c => (h _ ?_).symm)
    cases c <;> decide

theorem agree_setMember {key : String} (hkey : key ∈ partKeywords) (value : Json) (members : List (String × Json))
    (name : String) (hname : name ∉ partKeywords) :
    (Json.setMember key value members).lookup name = members.lookup name :=
  Json.lookup_setMember_of_ne fun heq => hname (heq ▸ hkey)

/-- **Schemas look the same if they differ at one node only, which looks the same.** -/
theorem map_compileAt_of_atNode (hv : Respects view keep narrow trim)
    {R : List (String × Json) → List (String × Json) → Prop}
    (hR : ∀ {members members'}, R members members' → ∀ path,
      (compileAt path (.object members)).map view = (compileAt path (.object members')).map view)
    {s t : Json} (h : Json.AtNode R s t) (path : String) :
    (compileAt path s).map view = (compileAt path t).map view := by
  induction h generalizing path with
  | here h => exact hR h path
  | @property members properties name s t hp hn h ih =>
    refine map_compileAt_of_agree hv (agree_setMember (by decide) _ _) ?_ ?_ ?_
    · rw [compileProperties_eq, compileProperties_eq, Json.lookup_setMember_self, hp]
      exact map_compileEach_setMember hn ih
    · rw [compileItems_congr (Json.lookup_setMember_of_ne (by decide))]
    · rw [compileAdditional_congr (Json.lookup_setMember_of_ne (by decide))]
  | @items members s t hi h ih =>
    obtain ⟨inner, inner', rfl, rfl⟩ := h.objects
    refine map_compileAt_of_agree hv (agree_setMember (by decide) _ _) ?_ ?_ ?_
    · rw [compileProperties_congr (Json.lookup_setMember_of_ne (by decide))]
    · rw [compileItems_eq, compileItems_eq, Json.lookup_setMember_self, hi]
      exact map_bind_congr (ih _) fun node node' hnode => congrArg (Except.ok ∘ some) hnode
    · rw [compileAdditional_congr (Json.lookup_setMember_of_ne (by decide))]
  | @position members schemas i s t hi hs h ih =>
    refine map_compileAt_of_agree hv (agree_setMember (by decide) _ _) ?_ ?_ ?_
    · rw [compileProperties_congr (Json.lookup_setMember_of_ne (by decide))]
    · rw [compileItems_eq, compileItems_eq, Json.lookup_setMember_self, hi]
      rfl
    · rw [compileAdditional_congr (Json.lookup_setMember_of_ne (by decide))]
  | @additional members s t ha h ih =>
    obtain ⟨inner, inner', rfl, rfl⟩ := h.objects
    refine map_compileAt_of_agree hv (agree_setMember (by decide) _ _) ?_ ?_ ?_
    · rw [compileProperties_congr (Json.lookup_setMember_of_ne (by decide))]
    · rw [compileItems_congr (Json.lookup_setMember_of_ne (by decide))]
    · rw [compileAdditional_eq, compileAdditional_eq, Json.lookup_setMember_self, ha]
      exact map_bind_congr (ih _) fun node node' hnode => congrArg (Except.ok ∘ Additional.constrained) hnode

/-- Schemas look the same if one comes from the other by any number of changes at nodes that look the same. -/
theorem map_compileAt_of_edits (hv : Respects view keep narrow trim)
    {R : List (String × Json) → List (String × Json) → Prop}
    (hR : ∀ {members members'}, R members members' → ∀ path,
      (compileAt path (.object members)).map view = (compileAt path (.object members')).map view)
    {s t : Json} (h : Relation.ReflTransGen (Json.AtNode R) s t) (path : String) :
    (compileAt path s).map view = (compileAt path t).map view := by
  induction h with
  | refl => rfl
  | tail _ hstep ih => exact ih.trans (map_compileAt_of_atNode hv hR hstep path)

end Edits

theorem map_compileAt_of_changes {view : Node → Node}
    {trim : List (Combinator × List Node) → List (Combinator × List Node)} (hv : Through view trim)
    {R : List (String × Json) → List (String × Json) → Prop}
    (hR : ∀ {members members'}, R members members' → ∀ path,
      (compileAt path (.object members)).map view = (compileAt path (.object members')).map view)
    {s t : Json} (h : Relation.ReflTransGen (Json.AtNode R) s t) (path : String) :
    (compileAt path s).map view = (compileAt path t).map view :=
  map_compileAt_of_edits hv.respects hR h path

end Node

end Schemata
